import LiveMediaExt.IdrGate

/-!
# The presentation times that a source delivers

The first frame is stamped with the clock, every later one with the offset read just before the
first stamp and the distance to the first frame. The stamps are in order when the second frame
lies at least as far behind the first as the second reading of the clock behind the first.
-/
namespace LiveMediaExt.Sources
open Execution Media LiveDeviceSource

/-- `tv_sec * 10^6 + tv_usec`. -/
def Timeval.micros (t : Timeval) : ℤ := t.sec * 1000000 + t.usec

namespace LiveDeviceSource

/-- The cast rounds down what is not negative. -/
theorem truncate_of_nonneg {q : ℚ} (h : 0 ≤ q) : truncate q = ⌊q⌋ := by
  have hnum : 0 ≤ q.num := Rat.num_nonneg.mpr h
  rw [truncate, Rat.floor_def', Int.tdiv_eq_ediv_of_nonneg hnum]

/-- The stamp of a frame at the given distance from the first one. -/
def offsetStamp (tOffsetTime : Timeval) (dDifference : ℚ) : Timeval :=
  let lDiffSecs := truncate dDifference
  let lDiffUSecs := truncate ((dDifference - lDiffSecs) * 1000000)
  ⟨tOffsetTime.sec + lDiffSecs, tOffsetTime.usec + lDiffUSecs⟩

theorem stampFrame_first {src : LiveDeviceSource} (h : src.offsetSet = false) (d : Delivery)
    (dStartTime : ℚ) :
    stampFrame d dStartTime src =
      { src with
        tOffsetTime := d.offsetClock
        dOffsetTime := dStartTime
        offsetSet := true
        presentationTime := d.presentationClock } := by
  simp [stampFrame, h]

theorem stampFrame_later {src : LiveDeviceSource} (h : src.offsetSet = true) (d : Delivery)
    (dStartTime : ℚ) :
    stampFrame d dStartTime src =
      { src with
        presentationTime := offsetStamp src.tOffsetTime (dStartTime - src.dOffsetTime) } := by
  simp [stampFrame, h, offsetStamp]

/-- The two truncations together round the distance down to microseconds. -/
theorem micros_offsetStamp (tOffsetTime : Timeval) {dDifference : ℚ} (h : 0 ≤ dDifference) :
    (offsetStamp tOffsetTime dDifference).micros =
      tOffsetTime.micros + ⌊dDifference * 1000000⌋ := by
  have hrest : 0 ≤ (dDifference - ⌊dDifference⌋) * 1000000 := by
    have hfloor := Int.floor_le dDifference
    have hdiff : 0 ≤ dDifference - ⌊dDifference⌋ := sub_nonneg.mpr hfloor
    positivity
  have hsplit : ⌊(dDifference - ⌊dDifference⌋) * 1000000⌋ =
      ⌊dDifference * 1000000⌋ - ⌊dDifference⌋ * 1000000 := by
    have hcast : (dDifference - ⌊dDifference⌋) * 1000000 =
        dDifference * 1000000 - ((⌊dDifference⌋ * 1000000 : ℤ) : ℚ) := by
      push_cast
      ring
    rw [hcast, Int.floor_sub_intCast]
  simp only [offsetStamp, Timeval.micros, truncate_of_nonneg h, truncate_of_nonneg hrest, hsplit]
  ring

/-- The members that the stamps depend on. -/
structure SameOffset (src t : LiveDeviceSource) : Prop where
  offsetSet : t.offsetSet = src.offsetSet
  tOffsetTime : t.tOffsetTime = src.tOffsetTime
  dOffsetTime : t.dOffsetTime = src.dOffsetTime
  handovers : t.handovers = src.handovers

theorem copyFrame_stamps {mediaSample : MediaSample} {src t : LiveDeviceSource}
    (h : copyFrame mediaSample src = .ok t) :
    SameOffset src t ∧ t.presentationTime = src.presentationTime := by
  unfold copyFrame at h
  dsimp only at h
  split_ifs at h
  · cases h
    exact ⟨⟨rfl, rfl, rfl, rfl⟩, rfl⟩
  · cases h
    exact ⟨⟨rfl, rfl, rfl, rfl⟩, rfl⟩

theorem noteFrameHeader_sameOffset (isWideband : Bool) (header : UInt8)
    (src : LiveDeviceSource) : SameOffset src (src.noteFrameHeader isWideband header) := by
  unfold noteFrameHeader
  dsimp only
  split_ifs
  all_goals exact ⟨rfl, rfl, rfl, rfl⟩

/-- Retrieving a frame has nothing to do with the stamps. -/
theorem retrieve_sameOffset {frame : Option Frame} {got : Bool} {src t : LiveDeviceSource}
    (h : src.retrieveMediaSampleFromBuffer frame = .ok (got, t)) : SameOffset src t := by
  unfold retrieveMediaSampleFromBuffer at h
  cases hclass : src.subclass with
  | device =>
    rw [hclass] at h
    rcases retrieveDevice_ok h with ⟨-, -, rfl⟩ | ⟨f, data, -, -, rfl, rfl⟩
    · exact ⟨rfl, rfl, rfl, rfl⟩
    · exact ⟨rfl, rfl, rfl, rfl⟩
  | amr isWideband header =>
    rw [hclass] at h
    obtain ⟨f, header', data, -, rfl, rfl⟩ := retrieveAmr_ok h
    have hsame := noteFrameHeader_sameOffset isWideband header' src
    exact ⟨hsame.offsetSet, hsame.tOffsetTime, hsame.dOffsetTime, hsame.handovers⟩
  | h264 waitingForIdr =>
    rw [hclass] at h
    rcases retrieveH264_ok h with ⟨-, rfl⟩ | ⟨f, mediaSamples, -, rfl, -, rfl, -⟩
    · exact ⟨rfl, rfl, rfl, rfl⟩
    · exact ⟨rfl, rfl, rfl, rfl⟩

end LiveDeviceSource

/-- The calls of one source's life. -/
inductive SourceCall
  | retrieve (frame : Option Frame)
  | deliverFrame
  | getNextFrame (request : Request)
  | stopGettingFrames

def SourceCall.event (world : ℕ → Delivery) : SourceCall → SourceEvent
  | .retrieve frame => .retrieve frame
  | .deliverFrame => .deliverFrame world
  | .getNextFrame request => .getNextFrame request world
  | .stopGettingFrames => .stopGettingFrames

/-- One call, where the frame number `k` of the source finds the surroundings `world k`. -/
def callStep (world : ℕ → Delivery) (src : LiveDeviceSource) (call : SourceCall) :
    Except Fault LiveDeviceSource :=
  sourceStep src (call.event fun n => world (src.handovers.length + n))

/-- The stamps of the frames delivered so far, as the first reading of the clock and the
second determine them. -/
def Stamped (world : ℕ → Delivery) (src : LiveDeviceSource) : Prop :=
  match src.handovers with
  | [] => src.offsetSet = false
  | first :: later =>
    src.offsetSet = true ∧ src.tOffsetTime = (world 0).offsetClock ∧
      src.dOffsetTime = first.mediaSample.presentationTime ∧
      first.framedSource.presentationTime = (world 0).presentationClock ∧
      ∀ handover ∈ later, handover.framedSource.presentationTime =
        offsetStamp (world 0).offsetClock
          (handover.mediaSample.presentationTime - first.mediaSample.presentationTime)

section Stamped
variable {world : ℕ → Delivery} {src t : LiveDeviceSource}

theorem Stamped.same (hstamped : Stamped world src) (h : SameOffset src t) : Stamped world t := by
  unfold Stamped at hstamped ⊢
  rw [h.handovers, h.offsetSet, h.tOffsetTime, h.dOffsetTime]
  exact hstamped

/-- One turn of the delivery adds one stamped frame. -/
theorem Stamped.turn {mediaSample : MediaSample} {rest : List MediaSample}
    (hstamped : Stamped world src)
    (h : copyFrame mediaSample (stampFrame (world src.handovers.length)
      mediaSample.presentationTime { src with mediaSamples := rest }) = .ok t) :
    Stamped world (afterGetting mediaSample t) := by
  obtain ⟨hsame, htime⟩ := copyFrame_stamps h
  unfold Stamped at hstamped ⊢
  cases hhandovers : src.handovers with
  | nil =>
    have hunset : ({ src with mediaSamples := rest } : LiveDeviceSource).offsetSet = false := by
      simpa [hhandovers] using hstamped
    have hnumber : src.handovers.length = 0 := by simp [hhandovers]
    rw [stampFrame_first hunset, hnumber] at hsame htime
    have hnone : t.handovers = [] := hsame.handovers.trans hhandovers
    simp only [afterGetting, hnone, List.nil_append]
    exact ⟨hsame.offsetSet, hsame.tOffsetTime, hsame.dOffsetTime, htime, by simp⟩
  | cons first later =>
    rw [hhandovers] at hstamped
    obtain ⟨hset, hclock, hoffset, hfirst, hlater⟩ := hstamped
    have hset' : ({ src with mediaSamples := rest } : LiveDeviceSource).offsetSet = true := hset
    rw [stampFrame_later hset'] at hsame htime
    have hsome : t.handovers = first :: later := hsame.handovers.trans hhandovers
    simp only [afterGetting, hsome, List.cons_append]
    refine ⟨hsame.offsetSet.trans hset, hsame.tOffsetTime.trans hclock,
      hsame.dOffsetTime.trans hoffset, hfirst, fun handover hmem => ?_⟩
    rcases List.mem_append.mp hmem with hmem | hmem
    · exact hlater handover hmem
    · rw [List.mem_singleton.mp hmem]
      change t.presentationTime = _
      rw [htime]
      dsimp only
      rw [hclock, hoffset]

theorem deliverQueued_stamped {queue : List MediaSample} {start : ℕ}
    (hstart : start = src.handovers.length) (hstamped : Stamped world src)
    (h : deliverQueued (fun n => world (start + n)) src queue = .ok t) : Stamped world t := by
  induction queue generalizing src start with
  | nil => cases h
  | cons mediaSample rest ih =>
    obtain ⟨u, hcopy, h⟩ := bind_ok.mp h
    subst hstart
    have hturn : Stamped world (afterGetting mediaSample u) := hstamped.turn hcopy
    have hlength : (afterGetting mediaSample u).handovers.length = src.handovers.length + 1 := by
      have hhandovers := (copyFrame_fills hcopy).handovers.trans (stampFrame_fills _ _ _).handovers
      simp only [afterGetting, hhandovers, List.length_append, List.length_singleton]
    cases hnext : (world (src.handovers.length + 0)).next with
    | none =>
      simp only [hnext, Except.ok.injEq] at h
      subst h
      exact hturn
    | some request =>
      simp only [hnext] at h
      cases rest with
      | nil =>
        simp only [Except.ok.injEq] at h
        subst h
        exact hturn.same ⟨rfl, rfl, rfl, rfl⟩
      | cons second rest =>
        have hshift : (fun n => world (src.handovers.length + (n + 1))) =
            fun n => world (src.handovers.length + 1 + n) := by
          funext n
          rw [Nat.add_assoc, Nat.add_comm 1 n]
        simp only [hshift] at h
        refine ih ?_ ?_ h
        · exact hlength.symm
        · exact hturn.same ⟨rfl, rfl, rfl, rfl⟩

theorem deliverFrame_stamped {start : ℕ} (hstart : start = src.handovers.length)
    (hstamped : Stamped world src)
    (h : deliverFrame (fun n => world (start + n)) src = .ok t) : Stamped world t := by
  unfold deliverFrame at h
  split_ifs at h
  · obtain rfl := Except.ok.inj h
    exact hstamped
  · exact deliverQueued_stamped hstart hstamped h

theorem getNextFrame_stamped {request : Request} (hstamped : Stamped world src)
    (h : LiveDeviceSource.getNextFrame (fun n => world (src.handovers.length + n)) request src =
      .ok t) :
    Stamped world t := by
  have hawait : Stamped world (awaitFrame request src) := hstamped.same ⟨rfl, rfl, rfl, rfl⟩
  unfold LiveDeviceSource.getNextFrame doGetNextFrame at h
  split_ifs at h
  · obtain rfl := Except.ok.inj h
    exact hawait.same ⟨rfl, rfl, rfl, rfl⟩
  · refine deliverFrame_stamped ?_ ?_ h
    · rfl
    · exact hawait.same ⟨rfl, rfl, rfl, rfl⟩

theorem callStep_stamped {call : SourceCall} (hstamped : Stamped world src)
    (h : callStep world src call = .ok t) : Stamped world t := by
  cases call with
  | retrieve frame =>
    obtain ⟨⟨got, u⟩, hretrieve, h⟩ := bind_ok.mp h
    obtain rfl := Except.ok.inj h
    exact hstamped.same (retrieve_sameOffset hretrieve)
  | deliverFrame => exact deliverFrame_stamped rfl hstamped h
  | getNextFrame request => exact getNextFrame_stamped hstamped h
  | stopGettingFrames =>
    obtain rfl := Except.ok.inj h
    exact hstamped.same ⟨rfl, rfl, rfl, rfl⟩

/-- Every frame that a source ever delivers is stamped by the readings for its first one. -/
theorem run_stamped {self clientId frameSize : ℕ} {subclass : Subclass}
    {calls : List SourceCall}
    (h : run (callStep world) (createNew self clientId subclass frameSize) calls = .ok src) :
    Stamped world src := by
  have hstart : Stamped world (createNew self clientId subclass frameSize) := rfl
  exact run_invariant hstart (fun _ _ _ hm hstep => callStep_stamped hm hstep) h

end Stamped

/-- The presentation times of the samples delivered. -/
def frameTimes (src : LiveDeviceSource) : List ℚ := src.popped.map MediaSample.presentationTime

/-- For every frame delivered its sample's presentation time and its stamp in microseconds. -/
def stamps (src : LiveDeviceSource) : List (ℚ × ℤ) :=
  src.handovers.map fun handover =>
    (handover.mediaSample.presentationTime, handover.framedSource.presentationTime.micros)

theorem frameTimes_eq (src : LiveDeviceSource) : frameTimes src = (stamps src).map Prod.fst := by
  simp [frameTimes, stamps, LiveDeviceSource.popped]

/-- The stamps are in order, and frames of one presentation time have one stamp. -/
def InOrder (src : LiveDeviceSource) : Prop :=
  (stamps src).Pairwise fun a b => a.2 ≤ b.2 ∧ (a.1 = b.1 → a.2 = b.2)

/-- The second frame lies behind the first by the whole microseconds, or more, that passed
between the two readings of the clock. -/
def LateSecond (world : ℕ → Delivery) : List ℚ → Prop
  | first :: second :: _ =>
    (world 0).presentationClock.micros - (world 0).offsetClock.micros ≤
      ⌊(second - first) * 1000000⌋
  | _ => True

theorem stamps_later {world : ℕ → Delivery} {src : LiveDeviceSource} {first : ℚ × ℤ}
    {later : List (ℚ × ℤ)} (hstamped : Stamped world src) (hstamps : stamps src = first :: later)
    (hsorted : (stamps src).Pairwise fun a b => a.1 ≤ b.1) :
    first.2 = (world 0).presentationClock.micros ∧
      ∀ stamp ∈ later, stamp.2 =
        (world 0).offsetClock.micros + ⌊(stamp.1 - first.1) * 1000000⌋ := by
  obtain ⟨handover, handovers, hhandovers, rfl, rfl⟩ := List.map_eq_cons_iff.mp hstamps
  unfold Stamped at hstamped
  rw [hhandovers] at hstamped
  obtain ⟨-, -, -, hfirst, hlater⟩ := hstamped
  refine ⟨congrArg Timeval.micros hfirst, fun stamp hstamp => ?_⟩
  rw [hstamps] at hsorted
  have hdistance := sub_nonneg.mpr (List.rel_of_pairwise_cons hsorted hstamp)
  obtain ⟨next, hnext, rfl⟩ := List.mem_map.mp hstamp
  dsimp only at hdistance ⊢
  rw [hlater next hnext, micros_offsetStamp _ hdistance]

theorem distance_mono (first : ℚ) {a b : ℚ} (h : a ≤ b) :
    ⌊(a - first) * 1000000⌋ ≤ ⌊(b - first) * 1000000⌋ := by
  apply Int.floor_le_floor
  linarith

/-- The frames behind the first are in order among themselves in any case. -/
theorem later_inOrder {clock : ℤ} {first : ℚ} {later : List (ℚ × ℤ)}
    (hlater : ∀ stamp ∈ later, stamp.2 = clock + ⌊(stamp.1 - first) * 1000000⌋)
    (hsorted : later.Pairwise fun a b => a.1 ≤ b.1) :
    later.Pairwise fun a b => a.2 ≤ b.2 ∧ (a.1 = b.1 → a.2 = b.2) := by
  refine hsorted.imp_of_mem fun {a b} ha hb hle => ?_
  rw [hlater a ha, hlater b hb]
  refine ⟨?_, fun heq => by rw [heq]⟩
  have hmono := distance_mono first hle
  omega

/-- The first frame is in order with all others when it is with the second. -/
theorem first_inOrder_iff {clock : ℤ} {first second : ℚ × ℤ} {rest : List (ℚ × ℤ)}
    (hclock : clock ≤ first.2)
    (hlater : ∀ stamp ∈ second :: rest, stamp.2 = clock + ⌊(stamp.1 - first.1) * 1000000⌋)
    (hsorted : (second :: rest).Pairwise fun a b => a.1 ≤ b.1) :
    (∀ stamp ∈ second :: rest, first.2 ≤ stamp.2 ∧ (first.1 = stamp.1 → first.2 = stamp.2)) ↔
      first.2 - clock ≤ ⌊(second.1 - first.1) * 1000000⌋ := by
  constructor
  · intro h
    have hle := (h second (by simp)).1
    rw [hlater second (by simp)] at hle
    omega
  · intro hlate stamp hstamp
    have hsecond : second.1 ≤ stamp.1 := by
      rcases List.mem_cons.mp hstamp with rfl | hrest
      · exact le_rfl
      · exact List.rel_of_pairwise_cons hsorted hrest
    have hmono := distance_mono first.1 hsecond
    rw [hlater stamp hstamp]
    refine ⟨by omega, fun heq => ?_⟩
    have hzero : ⌊(stamp.1 - first.1) * 1000000⌋ = 0 := by simp [heq]
    omega

/-- The stamps of a source are in order exactly when its second frame is late enough. -/
theorem stamps_inOrder_iff (self clientId frameSize : ℕ) (subclass : Subclass)
    (world : ℕ → Delivery) (calls : List SourceCall) (src : LiveDeviceSource)
    (hclock : (world 0).offsetClock.micros ≤ (world 0).presentationClock.micros)
    (hrun : run (callStep world) (createNew self clientId subclass frameSize) calls = .ok src)
    (hsorted : (frameTimes src).Pairwise (· ≤ ·)) :
    InOrder src ↔ LateSecond world (frameTimes src) := by
  have hstamped := run_stamped hrun
  rw [frameTimes_eq] at hsorted ⊢
  replace hsorted := List.pairwise_map.mp hsorted
  unfold InOrder
  cases hstamps : stamps src with
  | nil => simp [LateSecond]
  | cons first later =>
    obtain ⟨hfirst, hlater⟩ := stamps_later hstamped hstamps hsorted
    rw [hstamps] at hsorted
    obtain ⟨-, hlaterSorted⟩ := List.pairwise_cons.mp hsorted
    rw [List.pairwise_cons, and_iff_left (later_inOrder hlater hlaterSorted)]
    cases later with
    | nil => simp [LateSecond]
    | cons second rest =>
      rw [← hfirst] at hclock
      rw [first_inOrder_iff hclock hlater hlaterSorted, hfirst]
      rfl

/-- The clock advances by five microseconds between its readings. -/
def fiveLater (_ : ℕ) : Delivery := ⟨⟨100, 0⟩, ⟨100, 5⟩, none⟩

/-- Two frames are retrieved, then handed over one by one. -/
def twoFrames (firstTime secondTime : ℚ) : List SourceCall :=
  [.retrieve (some ⟨[7], 1, firstTime⟩), .retrieve (some ⟨[8], 1, secondTime⟩),
    .getNextFrame ⟨[0, 0], by decide⟩, .getNextFrame ⟨[0, 0], by decide⟩]

theorem stamps_inOrder_twoFrames : ∃ src,
    run (callStep fiveLater) (createNew 0 0 .device 0) (twoFrames 1 2) = .ok src ∧
      InOrder src := by
  have hstamps : (run (callStep fiveLater) (createNew 0 0 .device 0) (twoFrames 1 2)).map stamps =
      .ok [(1, 100000005), (2, 101000000)] := by decide +kernel
  cases hrun : run (callStep fiveLater) (createNew 0 0 .device 0) (twoFrames 1 2) with
  | error f =>
    rw [hrun] at hstamps
    cases hstamps
  | ok src =>
    rw [hrun] at hstamps
    have hsrc : stamps src = [(1, 100000005), (2, 101000000)] := Except.ok.inj hstamps
    refine ⟨src, rfl, (stamps_inOrder_iff 0 0 0 .device fiveLater (twoFrames 1 2) src (by decide)
      hrun ?_).mpr ?_⟩
    · rw [frameTimes_eq, hsrc]
      decide +kernel
    · rw [frameTimes_eq, hsrc]
      simp only [List.map_cons, LateSecond]
      decide +kernel

/-- Of two frames of one presentation time the second is stamped before the first. -/
theorem second_stamped_earlier :
    (run (callStep fiveLater) (createNew 0 0 .device 0) (twoFrames 1 1)).map stamps =
      .ok [(1, 100000005), (1, 100000000)] := by
  decide +kernel

end LiveMediaExt.Sources
