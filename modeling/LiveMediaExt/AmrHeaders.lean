import LiveMediaExt.PayloadBytes
import LiveMediaExt.SubsessionStreams

/-!
# The frame header of an AMR source

An arriving sample is split: its first byte goes to the one header field of the source, the rest
to the queue. The sink reads the field when it is handed a frame, whichever sample that frame
was cut from.
-/
namespace LiveMediaExt.Sources
open Execution Media LiveDeviceSource

/-- What happens to an AMR client: a sample arrives, stored before whatever its allocation
holds besides, or the sink asks for a frame or stops asking. -/
inductive AmrEvent
  | arrival (mediaSample : MediaSample) (rest : List UInt8) (world : ℕ → Delivery)
  | getNextFrame (request : Request) (world : ℕ → Delivery)
  | stopGettingFrames

def storedFrame (mediaSample : MediaSample) (rest : List UInt8) : Frame :=
  ⟨mediaSample.data.data ++ rest, mediaSample.getMediaSize, mediaSample.presentationTime⟩

def amrStep (src : LiveDeviceSource) : AmrEvent → Except Fault LiveDeviceSource
  | .arrival mediaSample rest world =>
    Subsession.offerFrame world (some (storedFrame mediaSample rest)) src
  | .getNextFrame request world => src.getNextFrame world request
  | .stopGettingFrames => .ok src.stopGettingFrames

def AmrEvent.sample? : AmrEvent → Option MediaSample
  | .arrival mediaSample _ _ => some mediaSample
  | .getNextFrame .. | .stopGettingFrames => none

def arrivals (events : List AmrEvent) : List MediaSample := events.filterMap AmrEvent.sample?

/-- The part of a sample that is queued. -/
def payload (mediaSample : MediaSample) : MediaSample where
  presentationTime := mediaSample.presentationTime
  data := ⟨mediaSample.data.data.tail, by
    have hlt := mediaSample.data.length_lt
    rw [List.length_tail]
    omega⟩

/-- The header the sink finds, followed by the frame it was given, is the sample. -/
def Reassembles (handover : Handover) (mediaSample : MediaSample) : Prop :=
  ∃ isWideband header, handover.subclass = .amr isWideband header ∧
    header :: handover.framedSource.fTo.take handover.framedSource.frameSize =
      mediaSample.data.data

/-- The payload of the sample is not truncated. -/
def Fits (fTo : List UInt8) (mediaSample : MediaSample) : Prop :=
  int32 (mediaSample.getMediaSize - 1) ≤ int32 fTo.length

/-- The samples that a request will be served from the queue, as many as the callbacks ask for,
begin with the byte and fit the destinations. -/
def FramesMatch (header : Option UInt8) :
    (ℕ → Delivery) → List UInt8 → List MediaSample → Prop
  | _, _, [] => True
  | world, fTo, mediaSample :: rest =>
    (mediaSample.data.data.head? = header ∧ Fits fTo mediaSample) ∧
      match (world 0).next with
      | none => True
      | some request => FramesMatch header (fun n => world (n + 1)) request.fTo rest

/-- Every sample that is handed over begins like the one that arrived last, and fits. -/
def HeadersMatch (before : List AmrEvent) (src : LiveDeviceSource) : AmrEvent → Prop
  | .arrival mediaSample _ _ => src.isCurrentlyAwaitingData = true → Fits src.fTo mediaSample
  | .getNextFrame request world =>
    FramesMatch ((arrivals before).getLast?.bind fun newest => newest.data.data.head?) world
      request.fTo ((arrivals before).drop src.handovers.length)
  | .stopGettingFrames => True

section Delivery
variable {src t : LiveDeviceSource} {world : ℕ → Delivery} {isWideband : Bool} {header : UInt8}
  {mediaSample : MediaSample}

theorem stampFrame_fTo (d : Delivery) (dStartTime : ℚ) (src : LiveDeviceSource) :
    (stampFrame d dStartTime src).fTo = src.fTo := by
  unfold stampFrame
  split_ifs
  · rfl
  · rfl

theorem payload_size (mediaSample : MediaSample) :
    (payload mediaSample).getMediaSize = mediaSample.getMediaSize - 1 :=
  List.length_tail

theorem copyFrame_reassembles (hne : mediaSample.data.data ≠ [])
    (h : copyFrame (payload mediaSample) src = .ok t) :
    header :: t.fTo.take t.frameSize = mediaSample.data.data ↔
      mediaSample.data.data.head? = some header ∧ Fits src.fTo mediaSample := by
  obtain ⟨first, tail, hdata⟩ := List.exists_cons_of_ne_nil hne
  have htail : (payload mediaSample).data.data = tail := by
    change mediaSample.data.data.tail = tail
    rw [hdata, List.tail_cons]
  have hsize := payload_size mediaSample
  unfold copyFrame at h
  dsimp only at h
  unfold Fits
  rw [← hsize]
  split_ifs at h with htrunc hfits
  · cases h
    have htake : src.fTo.take src.maxSize = src.fTo := List.take_length
    dsimp only
    rw [htake, hdata]
    constructor
    · intro heq
      have hsame : src.maxSize = (payload mediaSample).getMediaSize := by
        have htailSize : (payload mediaSample).getMediaSize = tail.length :=
          congrArg List.length htail
        rw [htailSize, ← (List.cons.inj heq).2]
        rfl
      rw [hsame] at htrunc
      exact absurd htrunc (lt_irrefl _)
    · intro ⟨_, hfit⟩
      exact absurd htrunc (not_lt.mpr hfit)
  · cases h
    have htake : ((payload mediaSample).data.data ++ src.fTo.drop
        (payload mediaSample).getMediaSize).take (payload mediaSample).getMediaSize = tail := by
      rw [htail, ← htail]
      exact List.take_left
    dsimp only
    rw [htake, hdata, List.head?_cons]
    constructor
    · intro heq
      exact ⟨by rw [(List.cons.inj heq).1], not_lt.mp htrunc⟩
    · intro ⟨hfirst, _⟩
      rw [Option.some.inj hfirst]

/-- What the sink gets of the first sample of the queue. -/
theorem deliverFirst_matches {u : LiveDeviceSource} {queue : List MediaSample}
    (hne : mediaSample.data.data ≠ []) (hclass : src.subclass = .amr isWideband header)
    (hcopy : copyFrame (payload mediaSample)
      (stampFrame (world 0) (payload mediaSample).presentationTime
        { src with mediaSamples := queue }) = .ok u) :
    u.subclass = .amr isWideband header ∧
      ∃ handover, (afterGetting (payload mediaSample) u).handovers = src.handovers ++ [handover] ∧
        (Reassembles handover mediaSample ↔
          mediaSample.data.data.head? = some header ∧ Fits src.fTo mediaSample) := by
  have hs := stampFrame_fills (world 0) (payload mediaSample).presentationTime
    { src with mediaSamples := queue }
  have hc := copyFrame_fills hcopy
  have hfTo := stampFrame_fTo (world 0) (payload mediaSample).presentationTime
    { src with mediaSamples := queue }
  have huclass : u.subclass = .amr isWideband header :=
    (hc.subclass.trans hs.subclass).trans hclass
  have hhandovers : u.handovers = src.handovers := hc.handovers.trans hs.handovers
  let handover : Handover :=
    ⟨payload mediaSample, { u.toFramedSource with isCurrentlyAwaitingData := false }, u.subclass⟩
  have hafter : (afterGetting (payload mediaSample) u).handovers =
      src.handovers ++ [handover] := by
    rw [← hhandovers]
    rfl
  refine ⟨huclass, handover, hafter, ?_⟩
  have hbytes : header :: u.fTo.take u.frameSize = mediaSample.data.data ↔ _ :=
    copyFrame_reassembles hne hcopy
  rw [hfTo] at hbytes
  constructor
  · intro ⟨isWideband', header', hclass', heq⟩
    obtain ⟨-, rfl⟩ := Subclass.amr.inj (huclass.symm.trans hclass')
    exact hbytes.mp heq
  · intro h
    exact ⟨isWideband, header, huclass, hbytes.mpr h⟩

/-- A header that differs from the one of the last sample, or a frame that does not fit, shows
in the frames handed over. -/
theorem deliverQueued_matches {mediaSamples : List MediaSample}
    (hne : ∀ s ∈ mediaSamples, s.data.data ≠ []) (hclass : src.subclass = .amr isWideband header)
    (h : deliverQueued world src (mediaSamples.map payload) = .ok t) :
    ∃ new, t.handovers = src.handovers ++ new ∧
      (List.Forall₂ Reassembles new (mediaSamples.take new.length) ↔
        FramesMatch (some header) world src.fTo mediaSamples) := by
  induction mediaSamples generalizing world src with
  | nil => cases h
  | cons mediaSample rest ih =>
    obtain ⟨u, hcopy, h⟩ := bind_ok.mp h
    have hfirst := hne mediaSample List.mem_cons_self
    obtain ⟨huclass, handover, hafter, hone⟩ := deliverFirst_matches hfirst hclass hcopy
    have hcons (new : List Handover) :
        List.Forall₂ Reassembles (handover :: new)
            ((mediaSample :: rest).take (handover :: new).length) ↔
          Reassembles handover mediaSample ∧
            List.Forall₂ Reassembles new (rest.take new.length) := by
      rw [List.length_cons, List.take_succ_cons, List.forall₂_cons]
    rw [FramesMatch, ← hone]
    cases hnext : (world 0).next with
    | none =>
      simp only [hnext] at h
      obtain rfl := Except.ok.inj h
      refine ⟨[handover], hafter, ?_⟩
      simp only [hcons]
      simp
    | some request =>
      simp only [hnext] at h
      cases rest with
      | nil =>
        obtain rfl := Except.ok.inj h
        refine ⟨[handover], hafter, ?_⟩
        simp only [hcons, FramesMatch]
        simp
      | cons second rest =>
        obtain ⟨new, hnew, hiff⟩ := ih (fun s hs => hne s (List.mem_cons_of_mem _ hs))
          (by exact huclass) h
        refine ⟨handover :: new, ?_, ?_⟩
        · rw [hnew, ← List.singleton_append, ← List.append_assoc, ← hafter]
          rfl
        · simp only [hcons]
          exact and_congr_right fun _ => hiff

theorem retrieve_storedFrame {first : UInt8} {tail : List UInt8}
    (hclass : src.subclass = .amr isWideband header)
    (hdata : mediaSample.data.data = first :: tail) (rest : List UInt8) :
    src.retrieveMediaSampleFromBuffer (some (storedFrame mediaSample rest)) =
      .ok (true, (src.noteFrameHeader isWideband first).pushBack [payload mediaSample]) := by
  have hlt := mediaSample.getMediaSize_lt
  have hlen : mediaSample.getMediaSize = tail.length + 1 := congrArg List.length hdata
  have htail : (payload mediaSample).data.data = tail := by
    change mediaSample.data.data.tail = tail
    rw [hdata, List.tail_cons]
  have hread : readByte (storedFrame mediaSample rest).memory 0 = .ok first := by
    simp [readByte, storedFrame, hdata]
  have hsize : sub32 (storedFrame mediaSample rest).size 1 = tail.length := by
    have hsub : sub32 mediaSample.getMediaSize 1 = mediaSample.getMediaSize - 1 :=
      sub32_of_le hlt (by omega)
    have hsame : (storedFrame mediaSample rest).size = mediaSample.getMediaSize := rfl
    rw [hsame, hsub, hlen, Nat.add_sub_cancel]
  have hcopy : copyBytes (storedFrame mediaSample rest).memory 1 tail.length =
      .ok (payload mediaSample).data := by
    have huint : uint32 tail.length = tail.length := uint32_of_lt (by omega)
    have hroom : 1 + uint32 tail.length ≤ (storedFrame mediaSample rest).memory.length := by
      rw [huint]
      simp only [storedFrame, List.length_append, hdata, List.length_cons]
      omega
    have hbytes : ((storedFrame mediaSample rest).memory.drop 1).take (uint32 tail.length) =
        mediaSample.data.data.tail := by
      rw [huint]
      simp [storedFrame, hdata]
    unfold copyBytes
    rw [if_pos hroom]
    simp only [hbytes]
    rfl
  rw [retrieveMediaSampleFromBuffer, hclass]
  refine bind_ok.mpr ⟨first, hread, bind_ok.mpr ⟨(payload mediaSample).data, ?_, rfl⟩⟩
  rw [hsize]
  exact hcopy

end Delivery

section Run
variable {src t : LiveDeviceSource} {events : List AmrEvent} {e : AmrEvent}

/-- The invariant of a run: all samples came through the queue, and the header field belongs to
the last of them. -/
structure AmrStream (events : List AmrEvent) (src : LiveDeviceSource) : Prop where
  nonempty : ∀ s ∈ arrivals events, s.data.data ≠ []
  settled : Settled src
  subclass : ∃ isWideband header, src.subclass = .amr isWideband header ∧
    ∀ s, (arrivals events).getLast? = some s → s.data.data.head? = some header
  stream : src.popped ++ src.mediaSamples = (arrivals events).map payload

theorem AmrStream.queue (hinv : AmrStream events src) :
    src.handovers.length ≤ (arrivals events).length ∧
      src.mediaSamples = ((arrivals events).drop src.handovers.length).map payload := by
  have hlen := congrArg List.length hinv.stream
  have hpopped : src.popped.length = src.handovers.length := List.length_map _
  rw [List.length_append, List.length_map, hpopped] at hlen
  refine ⟨by omega, ?_⟩
  rw [List.map_drop, ← hinv.stream, ← hpopped, List.drop_left]

theorem arrivals_snoc (events : List AmrEvent) (e : AmrEvent) :
    arrivals (events ++ [e]) = arrivals events ++ e.sample?.toList := by
  cases h : e.sample? with
  | none => simp [arrivals, h]
  | some mediaSample => simp [arrivals, h]

/-- The frames handed over in a step, against the samples they were cut from. -/
def StepReassembles (events : List AmrEvent) (src t : LiveDeviceSource) (e : AmrEvent) : Prop :=
  ∃ new, t.handovers = src.handovers ++ new ∧
    (List.Forall₂ Reassembles new
        (((arrivals (events ++ [e])).drop src.handovers.length).take new.length) ↔
      HeadersMatch events src e)

theorem noteFrameHeader_subclass (isWideband : Bool) (header : UInt8) (src : LiveDeviceSource) :
    (src.noteFrameHeader isWideband header).subclass = .amr isWideband header ∧
      (src.noteFrameHeader isWideband header).fTo = src.fTo := by
  unfold noteFrameHeader
  dsimp only
  split_ifs
  all_goals exact ⟨rfl, rfl⟩

/-- An event without an arrival keeps the invariant of a source that it serves. -/
theorem AmrStream.serves (hinv : AmrStream events src) (hserves : Serves src t)
    (hsettled : Settled t) (hnone : e.sample? = none) :
    arrivals (events ++ [e]) = arrivals events ∧ AmrStream (events ++ [e]) t := by
  obtain ⟨isWideband, header, hclass, hnewest⟩ := hinv.subclass
  have harrivals : arrivals (events ++ [e]) = arrivals events := by
    rw [arrivals_snoc, hnone]
    exact List.append_nil _
  refine ⟨harrivals, ⟨?_, hsettled, ?_, ?_⟩⟩
  · rw [harrivals]
    exact hinv.nonempty
  · rw [harrivals]
    exact ⟨isWideband, header, hserves.subclass.trans hclass, hnewest⟩
  · rw [harrivals, hserves.stream]
    exact hinv.stream

section Arrival
variable {mediaSample : MediaSample} {rest : List UInt8} {world : ℕ → Delivery}
  {isWideband : Bool} {header first : UInt8} {tail : List UInt8}

/-- An arrival queues its payload under its header and, where the sink waits, delivers. -/
theorem arrival_ok (hsettled : Settled src) (hclass : src.subclass = .amr isWideband header)
    (hdata : mediaSample.data.data = first :: tail)
    (h : amrStep src (.arrival mediaSample rest world) = .ok t) :
    ∃ u, Appends src u [payload mediaSample] ∧ u.subclass = .amr isWideband first ∧
      u.fTo = src.fTo ∧ Serves u t ∧
      ((src.isCurrentlyAwaitingData = false ∧ t = u) ∨
        (src.isCurrentlyAwaitingData = true ∧ deliverQueued world u u.mediaSamples = .ok t)) := by
  have hret := retrieve_storedFrame hclass hdata rest
  obtain ⟨got, u, hu, hcase⟩ := Subsession.offerFrame_ok h
  rw [hret] at hu
  obtain ⟨rfl, rfl⟩ := Prod.mk.inj (Except.ok.inj hu)
  set u := (src.noteFrameHeader isWideband first).pushBack [payload mediaSample] with hudef
  have happ : Appends src u [payload mediaSample] :=
    (noteFrameHeader_appends isWideband first src).trans (pushBack_appends _ _)
  obtain ⟨huclass, hufTo⟩ := noteFrameHeader_subclass isWideband first src
  have hserves : Serves u t := by
    rcases hcase with ⟨rfl, -⟩ | ⟨-, -, hdeliver⟩
    · exact .refl _
    · exact (deliverFrame_spec hdeliver).1
  refine ⟨u, happ, huclass, hufTo, hserves, ?_⟩
  have huawait := happ.isCurrentlyAwaitingData
  by_cases hawait : src.isCurrentlyAwaitingData = true
  · have huplay : u.isPlaying = false := happ.isPlaying.trans (hsettled hawait).2
    rw [hawait] at huawait
    right
    rcases hcase with ⟨-, hidle⟩ | ⟨-, -, hdeliver⟩
    · rw [huplay] at hidle
      simp at hidle
    · exact ⟨hawait, by simpa [deliverFrame, huawait] using hdeliver⟩
  · have hidle : src.isCurrentlyAwaitingData = false := by simpa using hawait
    rw [hidle] at huawait
    left
    rcases hcase with ⟨rfl, -⟩ | ⟨-, -, hdeliver⟩
    · exact ⟨hidle, rfl⟩
    · exact ⟨hidle, by simpa [deliverFrame, huawait] using hdeliver.symm⟩

theorem arrivals_arrival : arrivals (events ++ [.arrival mediaSample rest world]) =
    arrivals events ++ [mediaSample] := arrivals_snoc _ _

theorem arrival_amrStream (hinv : AmrStream events src) (hne : mediaSample.data.data ≠ [])
    (h : amrStep src (.arrival mediaSample rest world) = .ok t) :
    AmrStream (events ++ [.arrival mediaSample rest world]) t := by
  obtain ⟨first, tail, hdata⟩ := List.exists_cons_of_ne_nil hne
  obtain ⟨isWideband, header, hclass, -⟩ := hinv.subclass
  have hsettled : Settled t := Subsession.offerFrame_settled hinv.settled h
  obtain ⟨u, happ, huclass, -, hserves, -⟩ := arrival_ok hinv.settled hclass hdata h
  refine ⟨?_, hsettled, ⟨isWideband, first, hserves.subclass.trans huclass, ?_⟩, ?_⟩
  · intro s hs
    rw [arrivals_arrival] at hs
    rcases List.mem_append.mp hs with hs | hs
    · exact hinv.nonempty s hs
    · rw [List.mem_singleton.mp hs]
      exact hne
  · intro s hs
    rw [arrivals_arrival, List.getLast?_concat] at hs
    rw [← Option.some.inj hs, hdata, List.head?_cons]
  · rw [arrivals_arrival, hserves.stream, happ.popped, happ.mediaSamples, ← List.append_assoc,
      hinv.stream, List.map_append]
    rfl

theorem arrival_reassembles (hinv : AmrStream events src) (hne : mediaSample.data.data ≠ [])
    (h : amrStep src (.arrival mediaSample rest world) = .ok t) :
    StepReassembles events src t (.arrival mediaSample rest world) := by
  obtain ⟨first, tail, hdata⟩ := List.exists_cons_of_ne_nil hne
  obtain ⟨isWideband, header, hclass, -⟩ := hinv.subclass
  obtain ⟨u, happ, huclass, hufTo, -, hcase⟩ := arrival_ok hinv.settled hclass hdata h
  unfold StepReassembles
  rw [arrivals_arrival]
  rcases hcase with ⟨hidle, rfl⟩ | ⟨hawait, hdeliver⟩
  · refine ⟨[], by rw [happ.handovers, List.append_nil], ?_⟩
    simp [HeadersMatch, hidle]
  · have hempty := (hinv.settled hawait).1
    obtain ⟨hle, hqueue⟩ := hinv.queue
    have hdrop : (arrivals events ++ [mediaSample]).drop src.handovers.length =
        [mediaSample] := by
      rw [hempty] at hqueue
      have hnone := List.drop_eq_nil_iff.mp (List.map_eq_nil_iff.mp hqueue.symm)
      rw [Nat.le_antisymm hle hnone, List.drop_left]
    have huqueue : u.mediaSamples = [mediaSample].map payload := by
      rw [happ.mediaSamples, hempty]
      rfl
    have hone : ∀ s ∈ [mediaSample], s.data.data ≠ [] := by simpa using hne
    rw [huqueue] at hdeliver
    obtain ⟨new, hnew, hiff⟩ := deliverQueued_matches hone huclass hdeliver
    refine ⟨new, by rw [hnew, happ.handovers], ?_⟩
    rw [hdrop, hiff]
    unfold HeadersMatch FramesMatch
    rw [hufTo, hdata, List.head?_cons]
    cases (world 0).next with
    | none => simp [hawait]
    | some request => simp [hawait, FramesMatch]

end Arrival

theorem request_step {request : Request} {world : ℕ → Delivery}
    (hinv : AmrStream events src) (h : amrStep src (.getNextFrame request world) = .ok t) :
    AmrStream (events ++ [.getNextFrame request world]) t ∧
      StepReassembles events src t (.getNextFrame request world) := by
  obtain ⟨hserves, hsettled⟩ := getNextFrame_spec h
  obtain ⟨hle, hqueue⟩ := hinv.queue
  obtain ⟨isWideband, header, hclass, hnewest⟩ := hinv.subclass
  obtain ⟨harrivals, hstream⟩ := hinv.serves (e := .getNextFrame request world) hserves hsettled rfl
  refine ⟨hstream, ?_⟩
  unfold StepReassembles
  rw [harrivals]
  change src.getNextFrame world request = .ok t at h
  unfold LiveDeviceSource.getNextFrame doGetNextFrame at h
  split_ifs at h with hempty
  · cases h
    have hnone : (arrivals events).drop src.handovers.length = [] := by
      have hnil : src.mediaSamples = [] := List.isEmpty_iff.mp hempty
      rw [hnil] at hqueue
      exact List.map_eq_nil_iff.mp hqueue.symm
    refine ⟨[], (List.append_nil _).symm, ?_⟩
    unfold HeadersMatch
    rw [hnone]
    simp [FramesMatch]
  · have hdeliver : deliverQueued world { awaitFrame request src with isPlaying := true }
        (((arrivals events).drop src.handovers.length).map payload) = .ok t := by
      rw [← hqueue]
      exact h
    obtain ⟨new, hnew, hiff⟩ := deliverQueued_matches
      (fun s hs => hinv.nonempty s (List.mem_of_mem_drop hs)) (by exact hclass) hdeliver
    refine ⟨new, hnew, ?_⟩
    have hheader : ((arrivals events).getLast?.bind fun newest => newest.data.data.head?) =
        some header := by
      cases hlast : (arrivals events).getLast? with
      | none =>
        rw [List.getLast?_eq_none_iff] at hlast
        rw [hlast, List.drop_nil] at hqueue
        exact absurd (List.isEmpty_iff.mpr hqueue) hempty
      | some newest => exact hnewest newest hlast
    unfold HeadersMatch
    rw [hheader]
    exact hiff

theorem stop_step (hinv : AmrStream events src)
    (h : amrStep src .stopGettingFrames = .ok t) :
    AmrStream (events ++ [.stopGettingFrames]) t ∧
      StepReassembles events src t .stopGettingFrames := by
  obtain rfl : src.stopGettingFrames = t := Except.ok.inj h
  obtain ⟨hserves, hsettled⟩ := stopGettingFrames_spec src
  obtain ⟨-, hstream⟩ := hinv.serves (e := .stopGettingFrames) hserves hsettled rfl
  refine ⟨hstream, [], (List.append_nil _).symm, ?_⟩
  simp [HeadersMatch]

/-- The handovers of a step are judged by themselves. -/
theorem reassembles_snoc (hle : src.handovers.length ≤ (arrivals events).length)
    (hstep : StepReassembles events src t e) :
    List.Forall₂ Reassembles t.handovers
        ((arrivals (events ++ [e])).take t.handovers.length) ↔
      List.Forall₂ Reassembles src.handovers ((arrivals events).take src.handovers.length) ∧
        HeadersMatch events src e := by
  obtain ⟨new, hnew, hiff⟩ := hstep
  have hold : (arrivals (events ++ [e])).take src.handovers.length =
      (arrivals events).take src.handovers.length := by
    rw [arrivals_snoc, List.take_append_of_le_length hle]
  have hlen : ((arrivals events).take src.handovers.length).length = src.handovers.length :=
    List.length_take_of_le hle
  rw [← hiff, hnew, List.length_append, List.take_add, hold]
  constructor
  · intro h
    have hfirst := List.forall₂_take_append _ _ _ h
    have hrest := List.forall₂_drop_append _ _ _ h
    rw [hlen, List.take_left] at hfirst
    rw [hlen, List.drop_left] at hrest
    exact ⟨hfirst, hrest⟩
  · intro ⟨hfirst, hrest⟩
    exact List.rel_append hfirst hrest

theorem amr_step (hinv : AmrStream events src)
    (hne : ∀ s, e.sample? = some s → s.data.data ≠ []) (h : amrStep src e = .ok t) :
    AmrStream (events ++ [e]) t ∧ StepReassembles events src t e := by
  cases e with
  | arrival mediaSample rest world =>
    have hnonempty := hne mediaSample rfl
    exact ⟨arrival_amrStream hinv hnonempty h, arrival_reassembles hinv hnonempty h⟩
  | getNextFrame request world => exact request_step hinv h
  | stopGettingFrames => exact stop_step hinv h

theorem createNew_amrStream (self clientId frameSize : ℕ) (isWideband : Bool)
    (lastFrameHeader : UInt8) :
    AmrStream [] (createNew self clientId (.amr isWideband lastFrameHeader) frameSize) where
  nonempty := by simp [arrivals]
  settled := createNew_settled _ _ _ _
  subclass := ⟨isWideband, lastFrameHeader, rfl, by simp [arrivals]⟩
  stream := rfl

/-- The header the sink finds belongs to the frame, and both make up the sample, for every frame
handed over exactly when each sample is asked for before a sample with another header arrives,
and fits. -/
theorem header_matches_iff (self clientId frameSize : ℕ) (isWideband : Bool)
    (lastFrameHeader : UInt8) (events : List AmrEvent) (src : LiveDeviceSource)
    (hne : ∀ s ∈ arrivals events, s.data.data ≠ [])
    (hrun : run amrStep (createNew self clientId (.amr isWideband lastFrameHeader) frameSize)
      events = .ok src) :
    List.Forall₂ Reassembles src.handovers ((arrivals events).take src.handovers.length) ↔
      Along amrStep HeadersMatch
        (createNew self clientId (.amr isWideband lastFrameHeader) frameSize) events := by
  have hnonempty : Along amrStep (fun _ _ e => ∀ s, e.sample? = some s → s.data.data ≠ [])
      (createNew self clientId (.amr isWideband lastFrameHeader) frameSize) events := by
    intro before e after heq m _ s hs
    refine hne s (List.mem_filterMap.mpr ⟨e, ?_, hs⟩)
    simp [heq]
  refine (run_induction_along (R := fun es m => AmrStream es m ∧
    (List.Forall₂ Reassembles m.handovers ((arrivals es).take m.handovers.length) ↔
      Along amrStep HeadersMatch
        (createNew self clientId (.amr isWideband lastFrameHeader) frameSize) es))
    ⟨createNew_amrStream _ _ _ _ _, ?_⟩ ?_ hnonempty hrun).2
  · simp [createNew, arrivals, along_nil]
  · rintro es m e t hm ⟨hinv, hiff⟩ he ht
    obtain ⟨hinv', hstep⟩ := amr_step hinv he ht
    refine ⟨hinv', ?_⟩
    rw [reassembles_snoc hinv.queue.1 hstep, along_snoc hm, hiff]

/-- The arrivals of a subsession with a single-channel buffer are such arrivals. -/
theorem clientStep_arrival {b : SingleMediaSampleBuffer} {mediaSample : MediaSample}
    {worlds : ℕ → ℕ → Delivery}
    (h : Subsession.ClientStep b (.addMediaSample mediaSample worlds) src t) :
    ∃ rest, amrStep src (.arrival mediaSample rest (worlds src.self)) = .ok t := by
  obtain ⟨buffer, hbuffer, hoffer⟩ := h
  obtain rfl : b.addMediaSample mediaSample = buffer := Except.ok.inj hbuffer
  obtain ⟨rest, hframe⟩ := b.getNextFrame_addMediaSample mediaSample
  rw [hframe] at hoffer
  exact ⟨rest, hoffer⟩

def quietWorld (_ : ℕ) : Delivery := ⟨⟨0, 0⟩, ⟨0, 0⟩, none⟩

def oneByteRequest : Request := ⟨[9], by norm_num⟩

/-- A frame of one payload byte with the given header. -/
def amrFrame (header byte : UInt8) : AmrEvent :=
  .arrival { data := ⟨[header, byte], by norm_num⟩ } [] quietWorld

theorem header_matches_oneFrame : ∃ src,
    run amrStep (createNew 0 0 (.amr false 0) 0)
      [amrFrame 0x04 1, .getNextFrame oneByteRequest quietWorld] = .ok src ∧
    (List.Forall₂ Reassembles src.handovers
        ((arrivals [amrFrame 0x04 1, .getNextFrame oneByteRequest quietWorld]).take
          src.handovers.length) ↔
      Along amrStep HeadersMatch (createNew 0 0 (.amr false 0) 0)
        [amrFrame 0x04 1, .getNextFrame oneByteRequest quietWorld]) := by
  refine ⟨_, rfl, header_matches_iff 0 0 0 false 0 _ _ (fun s hs => ?_) rfl⟩
  simp only [arrivals, amrFrame, AmrEvent.sample?, List.filterMap_cons, List.filterMap_nil,
    List.mem_singleton] at hs
  simp [hs]

/-- Two samples arrive before the sink asks: the first payload goes out under the second
header. -/
theorem wrong_header_handed_over :
    (run amrStep (createNew 0 0 (.amr false 0) 0)
        [amrFrame 0x04 1, amrFrame 0x0C 2, .getNextFrame oneByteRequest quietWorld]).map
      (fun src => src.handovers.map fun handover =>
        (handover.subclass, handover.framedSource.fTo.take handover.framedSource.frameSize)) =
      .ok [(.amr false 0x0C, [1])] := by
  decide +kernel

end Run

end LiveMediaExt.Sources
