import LiveMediaExt.Stuttering

/-!
# The simple rate adaptation

The adaptation counts the channels up and down by one with every report. A report with the packet
number remembered is ignored, but the number remembered is never anything but the initial zero.
-/
namespace LiveMediaExt.Rates
open Stuttering

inductive SwitchDirection
  | switchUp
  | switchDown
  | stay
  deriving DecidableEq, Repr

structure SimpleRateAdaptation where
  lastPacketNumReceived : UInt32
  nCurrentChannel : ℤ
  bUp : Bool
  deriving DecidableEq

namespace SimpleRateAdaptation

/-- The constructor. -/
def create : SimpleRateAdaptation := ⟨0, 0, true⟩

/-- Of a report only the number of the last packet received is looked at. -/
def getRateAdaptAdvice (s : SimpleRateAdaptation) (packetNum : UInt32) :
    SwitchDirection × SimpleRateAdaptation :=
  if packetNum = s.lastPacketNumReceived then (.stay, s)
  else if s.bUp then
    (.switchUp, { s with
      nCurrentChannel := s.nCurrentChannel + 1
      bUp := if s.nCurrentChannel + 1 = 7 then false else s.bUp })
  else
    (.switchDown, { s with
      nCurrentChannel := s.nCurrentChannel - 1
      bUp := if s.nCurrentChannel - 1 = 0 then true else s.bUp })

/-- The advice to switch that the reports are given, in order. -/
def switches (packetNums : List UInt32) : List SwitchDirection :=
  (outputs getRateAdaptAdvice create packetNums).filter (· ≠ .stay)

/-- No two reports in a row have the same number, but for zero. -/
def NoRepeats (packetNums : List UInt32) : Prop :=
  packetNums.IsChain fun a b => a = b → a = 0

section Reports
variable {s : SimpleRateAdaptation} {packetNum : UInt32} {packetNums : List UInt32}

/-- The number remembered is zero, and the channel is one of eight, not the last on the way up
and not the first on the way down. -/
structure Valid (s : SimpleRateAdaptation) : Prop where
  lastPacketNumReceived : s.lastPacketNumReceived = 0
  channel_nonneg : 0 ≤ s.nCurrentChannel
  channel_le : s.nCurrentChannel ≤ 7
  up : s.bUp = true → s.nCurrentChannel < 7
  down : s.bUp = false → 0 < s.nCurrentChannel

theorem create_valid : create.Valid := by
  constructor
  all_goals simp [create]

theorem getRateAdaptAdvice_valid (h : s.Valid) (packetNum : UInt32) :
    (s.getRateAdaptAdvice packetNum).2.Valid := by
  obtain ⟨hlast, hnonneg, hle, hup, hdown⟩ := h
  unfold getRateAdaptAdvice
  by_cases hsame : packetNum = s.lastPacketNumReceived
  · rw [if_pos hsame]
    exact ⟨hlast, hnonneg, hle, hup, hdown⟩
  · rw [if_neg hsame]
    cases hdirection : s.bUp with
    | true =>
      have hbelow := hup hdirection
      refine ⟨hlast, ?_, ?_, ?_, ?_⟩
      all_goals
        simp
        omega
    | false =>
      have habove := hdown hdirection
      refine ⟨hlast, ?_, ?_, ?_, ?_⟩
      all_goals
        simp
        omega

theorem stateAfter_valid (h : s.Valid) (packetNums : List UInt32) :
    (stateAfter getRateAdaptAdvice s packetNums).Valid := by
  induction packetNums generalizing s with
  | nil => exact h
  | cons packetNum packetNums ih => exact ih (getRateAdaptAdvice_valid h packetNum)

/-- The one report that is ignored is that of no packet. -/
theorem getRateAdaptAdvice_ignored_iff (h : s.Valid) :
    s.getRateAdaptAdvice packetNum = (.stay, s) ↔ packetNum = 0 := by
  have hlast := h.lastPacketNumReceived
  unfold getRateAdaptAdvice
  rw [hlast]
  by_cases hzero : packetNum = 0
  · rw [if_pos hzero]
    exact iff_of_true rfl hzero
  · rw [if_neg hzero]
    cases s.bUp with
    | true => simp [hzero]
    | false => simp [hzero]

/-- Repeated reports are ignored just when they are all of no packet. -/
theorem repeatsIgnored_iff :
    RepeatsIgnored getRateAdaptAdvice .stay create packetNums ↔ NoRepeats packetNums := by
  have hvalid := stateAfter_valid create_valid
  unfold NoRepeats
  rw [List.isChain_iff_forall_rel_of_append_cons_cons]
  constructor
  · intro h a b before later hsplit hsame
    subst hsame
    have hignored := h (before ++ [a]) a later (by simp [hsplit]) (by simp)
    exact (getRateAdaptAdvice_ignored_iff (hvalid _)).mp hignored
  · intro h before e later hsplit hlast
    obtain ⟨before, rfl⟩ := List.getLast?_eq_some_iff.mp hlast
    have htwice : packetNums = before ++ e :: e :: later := by simp [hsplit]
    have hzero : e = 0 := h htwice rfl
    exact (getRateAdaptAdvice_ignored_iff (hvalid _)).mpr hzero

end Reports

/-- Repeated reports are ignored, and leaving them out leaves the advice to switch as it is,
exactly when no report but one of no packet is repeated. -/
theorem repeats_ignored_iff (packetNums : List UInt32) :
    (RepeatsIgnored getRateAdaptAdvice .stay create packetNums ∧
        switches (packetNums.destutter (· ≠ ·)) = switches packetNums) ↔
      NoRepeats packetNums := by
  rw [repeatsIgnored_iff, and_iff_left_iff_imp]
  intro h
  exact outputs_destutter (repeatsIgnored_iff.mpr h)

/-- The second report of the same packet is given another advice to switch up. -/
theorem repeated_report_advised :
    outputs getRateAdaptAdvice create [1, 1] = [.switchUp, .switchUp] ∧
      switches [1, 1] = [.switchUp, .switchUp] ∧
      switches ([1, 1].destutter (· ≠ ·)) = [.switchUp] := by
  decide +kernel

end SimpleRateAdaptation

end LiveMediaExt.Rates
