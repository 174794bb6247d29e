import LiveMediaExt.PresentationTimes

/-!
# Delivered times as values of type `timeval`

Seconds and microseconds are added apart, each truncated toward zero, and neither is carried into
the other nor borrowed from it. The sum is right to within a microsecond, but its microseconds may
leave their range.
-/
namespace LiveMediaExt.Sources
open Execution Media LiveDeviceSource

/-- What a `timeval` must keep to. -/
def Timeval.Normalised (t : Timeval) : Prop := 0 ≤ t.usec ∧ t.usec < 1000000

instance (t : Timeval) : Decidable t.Normalised := inferInstanceAs (Decidable (_ ∧ _))

namespace LiveDeviceSource

/-- The cast is the same on both sides of zero. -/
theorem truncate_neg (q : ℚ) : truncate (-q) = -truncate q := by
  simp [truncate, Int.neg_tdiv]

theorem abs_sub_truncate_lt (q : ℚ) : |q - truncate q| < 1 := by
  rcases le_total 0 q with hq | hq
  · rw [truncate_of_nonneg hq, abs_lt]
    have hfloor := Int.floor_le q
    have hnext := Int.lt_floor_add_one q
    constructor <;> linarith
  · have hneg : 0 ≤ -q := neg_nonneg.mpr hq
    have htruncate : truncate q = -⌊-q⌋ := by
      rw [← truncate_of_nonneg hneg, truncate_neg, neg_neg]
    have hfloor := Int.floor_le (-q)
    have hnext := Int.lt_floor_add_one (-q)
    rw [htruncate, abs_lt]
    push_cast
    constructor <;> linarith

/-- The microseconds of a distance, on the side of zero where the distance is. -/
def diffUSecs (dDifference : ℚ) : ℤ :=
  truncate ((dDifference - truncate dDifference) * 1000000)

theorem offsetStamp_eq (tOffsetTime : Timeval) (dDifference : ℚ) :
    offsetStamp tOffsetTime dDifference =
      ⟨tOffsetTime.sec + truncate dDifference, tOffsetTime.usec + diffUSecs dDifference⟩ := rfl

theorem diffUSecs_of_nonneg {dDifference : ℚ} (h : 0 ≤ dDifference) :
    diffUSecs dDifference = ⌊Int.fract dDifference * 1000000⌋ := by
  have hfract : dDifference - truncate dDifference = Int.fract dDifference := by
    rw [truncate_of_nonneg h]
    rfl
  have hnonneg : 0 ≤ Int.fract dDifference * 1000000 :=
    mul_nonneg (Int.fract_nonneg _) (by norm_num)
  rw [diffUSecs, hfract, truncate_of_nonneg hnonneg]

theorem diffUSecs_neg (dDifference : ℚ) : diffUSecs (-dDifference) = -diffUSecs dDifference := by
  unfold diffUSecs
  rw [← truncate_neg, truncate_neg dDifference]
  congr 1
  push_cast
  ring

theorem fract_micros (q : ℚ) :
    0 ≤ ⌊Int.fract q * 1000000⌋ ∧ ⌊Int.fract q * 1000000⌋ < 1000000 := by
  have hnonneg := Int.fract_nonneg q
  have hlt := Int.fract_lt_one q
  constructor
  · exact Int.floor_nonneg.mpr (by positivity)
  · rw [Int.floor_lt]
    push_cast
    linarith

end LiveDeviceSource

/-- Neither a carry nor a borrow is due: the fraction of a distance forward leaves room to the
next second, and that of one backward does not reach before the second. -/
def StaysInSecond (tOffsetTime : Timeval) (dDifference : ℚ) : Prop :=
  if 0 ≤ dDifference then
    tOffsetTime.usec + ⌊Int.fract dDifference * 1000000⌋ < 1000000
  else ⌊Int.fract (-dDifference) * 1000000⌋ ≤ tOffsetTime.usec

theorem offsetStamp_normalised_iff {tOffsetTime : Timeval} (h : tOffsetTime.Normalised)
    (dDifference : ℚ) :
    (offsetStamp tOffsetTime dDifference).Normalised ↔ StaysInSecond tOffsetTime dDifference := by
  obtain ⟨hnonneg, hlt⟩ := h
  unfold Timeval.Normalised StaysInSecond
  rw [offsetStamp_eq]
  dsimp only
  split_ifs with hsign
  · obtain ⟨hfract, -⟩ := fract_micros dDifference
    rw [diffUSecs_of_nonneg hsign]
    constructor
    · exact And.right
    · intro hroom
      omega
  · obtain ⟨hfract, -⟩ := fract_micros (-dDifference)
    have hneg : 0 ≤ -dDifference := by linarith
    have hmicros : diffUSecs dDifference = -⌊Int.fract (-dDifference) * 1000000⌋ := by
      rw [← diffUSecs_of_nonneg hneg, diffUSecs_neg, neg_neg]
    rw [hmicros]
    omega

/-- The stamp denotes the time at the distance from the offset, to within a microsecond. -/
def Denotes (tOffsetTime : Timeval) (dDifference : ℚ) (stamp : Timeval) : Prop :=
  |(stamp.micros : ℚ) - (tOffsetTime.micros + dDifference * 1000000)| ≤ 1

/-- Two truncations, but only that of the microseconds loses something. -/
theorem offsetStamp_denotes (tOffsetTime : Timeval) (dDifference : ℚ) :
    Denotes tOffsetTime dDifference (offsetStamp tOffsetTime dDifference) := by
  have hlost := abs_sub_truncate_lt ((dDifference - truncate dDifference) * 1000000)
  have hdistance : ((offsetStamp tOffsetTime dDifference).micros : ℚ) -
      (tOffsetTime.micros + dDifference * 1000000) =
      -((dDifference - truncate dDifference) * 1000000 - diffUSecs dDifference) := by
    rw [offsetStamp_eq]
    unfold Timeval.micros
    push_cast
    ring
  unfold Denotes
  rw [hdistance, abs_neg]
  exact hlost.le

/-- For every frame delivered its sample's presentation time and its stamp. -/
def timevals (src : LiveDeviceSource) : List (ℚ × Timeval) :=
  src.handovers.map fun handover =>
    (handover.mediaSample.presentationTime, handover.framedSource.presentationTime)

theorem frameTimes_eq_timevals (src : LiveDeviceSource) :
    frameTimes src = (timevals src).map Prod.fst := by
  simp [frameTimes, timevals, LiveDeviceSource.popped]

/-- Every stamp is normalised and denotes its frame's time, reckoned from the offset. -/
def WellStamped (tOffsetTime : Timeval) : List (ℚ × Timeval) → Prop
  | [] => True
  | first :: later => ∀ frame ∈ first :: later,
      frame.2.Normalised ∧ Denotes tOffsetTime (frame.1 - first.1) frame.2

/-- The two readings for the first frame are at most a microsecond apart, and no later frame is
due a carry or a borrow. -/
def NeverCarries (world : ℕ → Delivery) : List ℚ → Prop
  | [] => True
  | first :: later =>
    |(world 0).presentationClock.micros - (world 0).offsetClock.micros| ≤ 1 ∧
      ∀ time ∈ later, StaysInSecond (world 0).offsetClock (time - first)

section Stamps
variable {world : ℕ → Delivery} {src : LiveDeviceSource}

theorem timevals_stamped {first : ℚ × Timeval} {later : List (ℚ × Timeval)}
    (hstamped : Stamped world src) (htimevals : timevals src = first :: later) :
    first.2 = (world 0).presentationClock ∧
      ∀ frame ∈ later, frame.2 = offsetStamp (world 0).offsetClock (frame.1 - first.1) := by
  obtain ⟨handover, handovers, hhandovers, rfl, rfl⟩ := List.map_eq_cons_iff.mp htimevals
  unfold Stamped at hstamped
  rw [hhandovers] at hstamped
  obtain ⟨-, -, -, hfirst, hlater⟩ := hstamped
  refine ⟨hfirst, ?_⟩
  intro frame hframe
  obtain ⟨next, hnext, rfl⟩ := List.mem_map.mp hframe
  exact hlater next hnext

/-- The first frame lies at no distance from itself. -/
theorem denotes_first_iff {tOffsetTime stamp : Timeval} {time : ℚ} :
    Denotes tOffsetTime (time - time) stamp ↔ |stamp.micros - tOffsetTime.micros| ≤ 1 := by
  unfold Denotes
  rw [sub_self, zero_mul, add_zero]
  exact_mod_cast Iff.rfl

end Stamps

/-- The delivered times are normalised and right to within a microsecond exactly when the
readings for the first frame are and no carry or borrow is due afterwards. -/
theorem wellStamped_iff (self clientId frameSize : ℕ) (subclass : Subclass)
    (world : ℕ → Delivery) (calls : List SourceCall) (src : LiveDeviceSource)
    (hoffset : (world 0).offsetClock.Normalised)
    (hpresentation : (world 0).presentationClock.Normalised)
    (hrun : run (callStep world) (createNew self clientId subclass frameSize) calls = .ok src) :
    WellStamped (world 0).offsetClock (timevals src) ↔ NeverCarries world (frameTimes src) := by
  have hstamped := run_stamped hrun
  rw [frameTimes_eq_timevals]
  cases htimevals : timevals src with
  | nil => exact Iff.rfl
  | cons first later =>
    obtain ⟨hfirst, hlater⟩ := timevals_stamped hstamped htimevals
    unfold WellStamped NeverCarries
    simp only [List.map_cons, List.forall_mem_cons, List.forall_mem_map]
    rw [hfirst, denotes_first_iff]
    apply and_congr
    · exact and_iff_right hpresentation
    · apply forall₂_congr
      intro frame hframe
      rw [hlater frame hframe, offsetStamp_normalised_iff hoffset]
      exact and_iff_left (offsetStamp_denotes _ _)

/-- Both readings of the clock are the same. -/
def sameReading (usec : ℤ) (_ : ℕ) : Delivery := ⟨⟨100, usec⟩, ⟨100, usec⟩, none⟩

theorem wellStamped_iff_twoFrames : ∃ src,
    run (callStep (sameReading 5)) (createNew 0 0 .device 0) (twoFrames 1 2) = .ok src ∧
      WellStamped ⟨100, 5⟩ (timevals src) := by
  have htimevals : (run (callStep (sameReading 5)) (createNew 0 0 .device 0)
      (twoFrames 1 2)).map timevals = .ok [(1, ⟨100, 5⟩), (2, ⟨101, 5⟩)] := by decide +kernel
  cases hrun : run (callStep (sameReading 5)) (createNew 0 0 .device 0) (twoFrames 1 2) with
  | error f =>
    rw [hrun] at htimevals
    cases htimevals
  | ok src =>
    rw [hrun] at htimevals
    have hsrc : timevals src = [(1, ⟨100, 5⟩), (2, ⟨101, 5⟩)] := Except.ok.inj htimevals
    refine ⟨src, rfl, (wellStamped_iff 0 0 0 .device (sameReading 5) (twoFrames 1 2) src
      (by decide) (by decide) hrun).mpr ?_⟩
    rw [frameTimes_eq_timevals, hsrc]
    simp [NeverCarries, sameReading, StaysInSecond]

/-- A frame a fifth of a second after the first, which came nine tenths into its second, and one
half a second before a first frame at the full second. -/
theorem later_stamps_notNormalised :
    ((run (callStep (sameReading 900000)) (createNew 0 0 .device 0) (twoFrames 1 (6 / 5))).map
        timevals = .ok [(1, ⟨100, 900000⟩), (6 / 5, ⟨100, 1100000⟩)] ∧
      ¬ WellStamped ⟨100, 900000⟩ [(1, ⟨100, 900000⟩), (6 / 5, ⟨100, 1100000⟩)]) ∧
    (run (callStep (sameReading 0)) (createNew 0 0 .device 0) (twoFrames 1 (1 / 2))).map
        timevals = .ok [(1, ⟨100, 0⟩), (1 / 2, ⟨100, -500000⟩)] ∧
      ¬ WellStamped ⟨100, 0⟩ [(1, ⟨100, 0⟩), (1 / 2, ⟨100, -500000⟩)] := by
  refine ⟨⟨by decide +kernel, ?_⟩, by decide +kernel, ?_⟩
  · intro hstamped
    have hcarry := (hstamped (6 / 5, ⟨100, 1100000⟩) (by simp)).1
    revert hcarry
    decide
  · intro hstamped
    have hborrow := (hstamped (1 / 2, ⟨100, -500000⟩) (by simp)).1
    revert hborrow
    decide

end LiveMediaExt.Sources
