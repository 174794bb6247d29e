import LiveMediaExt.Execution
import LiveMediaExt.MediaSample

/-!
# The switch controller

The controller keeps the current channel, the target of a pending switch and the limits for
both. A limit operation that the current channel already meets leaves a pending target as it
is, inside the new limits or not.
-/
namespace LiveMediaExt.Media
open Execution

structure SwitchController where
  currentChannel : UInt32 := 0
  targetChannel : UInt32 := 0
  bitrates : List UInt32 := []
  minChannel : UInt32 := 0
  maxChannel : UInt32 := 0
  minBitrate : UInt32 := 0
  maxBitrate : UInt32 := 0
  initialised : Bool := false
  switchFlag : Bool := false
  deriving DecidableEq

namespace SwitchController

/-- `vBitrates[uiChannel]`. -/
def readBitrate (bitrates : List UInt32) (channel : UInt32) : Except Fault UInt32 :=
  match bitrates[channel.toNat]? with
  | some bitrate => .ok bitrate
  | none => .error .outOfBounds

def assertInitialised (s : SwitchController) : Except Fault Unit :=
  if s.initialised then .ok () else .error .notInitialised

def updateCurrentChannel (s : SwitchController) (channel : UInt32) : SwitchController :=
  { s with currentChannel := channel }

/-- The size is truncated to 32 bits; the bitrate limits are read from the list as it was
given, before the sorting. -/
def setChannelBitrates (s : SwitchController) (bitrates : List UInt32) :
    Except Fault SwitchController := do
  let maxChannel := UInt32.ofNat bitrates.length - 1
  let minBitrate ← readBitrate bitrates 0
  let maxBitrate ← readBitrate bitrates maxChannel
  return { s with
    bitrates := bitrates.insertionSort (· ≤ ·)
    minChannel := 0
    maxChannel
    minBitrate
    maxBitrate
    initialised := true }

def resetSwitchFlag (s : SwitchController) : SwitchController := { s with switchFlag := false }

def switchUp (s : SwitchController) : Except Fault (Bool × SwitchController) := do
  s.assertInitialised
  let current := s.currentChannel + 1
  if current > s.maxChannel then return (false, { s with currentChannel := current - 1 })
  else return (true, { s with currentChannel := current })

/-- The comparison is one of signed numbers. -/
def switchDown (s : SwitchController) : Except Fault (Bool × SwitchController) := do
  s.assertInitialised
  let newChannel := (s.currentChannel - 1).toInt32
  if newChannel < s.minChannel.toInt32 then return (false, s)
  else return (true, { s with currentChannel := newChannel.toUInt32 })

def switchChannel (s : SwitchController) (channel : UInt32) :
    Except Fault (Bool × SwitchController) := do
  s.assertInitialised
  if channel < s.minChannel ∨ channel > s.maxChannel then return (false, s)
  else
    let s := { s with targetChannel := channel }
    if s.targetChannel ≠ s.currentChannel then return (true, { s with switchFlag := true })
    else return (false, s)

def setSwitchFlagIfNecessary (s : SwitchController) : SwitchController :=
  if s.currentChannel < s.minChannel then
    { s with targetChannel := s.minChannel, switchFlag := true }
  else if s.currentChannel > s.maxChannel then
    { s with targetChannel := s.maxChannel, switchFlag := true }
  else s

def limitChannel (s : SwitchController) (minChannel maxChannel : UInt32) :
    Except Fault (Bool × SwitchController) := do
  s.assertInitialised
  if maxChannel < minChannel then return (false, s)
  else if s.bitrates.length ≤ minChannel.toNat then return (false, s)
  else if s.bitrates.length ≤ maxChannel.toNat then return (false, s)
  else
    let minBitrate ← readBitrate s.bitrates minChannel
    let maxBitrate ← readBitrate s.bitrates maxChannel
    return (true, { s with minChannel, maxChannel, minBitrate, maxBitrate
                  }.setSwitchFlagIfNecessary)

/-- The loop from index `i` on, with the index found so far, an `int`. -/
def findLessOrEqual (bitrate : UInt32) : List UInt32 → ℕ → Int32 → Int32
  | [], _, index => index
  | b :: bs, i, index =>
    if b ≤ bitrate then findLessOrEqual bitrate bs (i + 1) (Int32.ofNat i) else index

def findIndexOfFirstBitrateLessOrEqual (s : SwitchController) (bitrate : UInt32) : Int32 :=
  findLessOrEqual bitrate s.bitrates 0 (-1)

def findGreaterOrEqual (bitrate : UInt32) : List UInt32 → ℕ → Int32
  | [], _ => -1
  | b :: bs, i => if bitrate ≤ b then Int32.ofNat i else findGreaterOrEqual bitrate bs (i + 1)

def findIndexOfFirstBitrateGreaterOrEqual (s : SwitchController) (bitrate : UInt32) : Int32 :=
  findGreaterOrEqual bitrate s.bitrates 0

def switchBitRate (s : SwitchController) (targetBitrate : UInt32) :
    Except Fault (Bool × SwitchController) := do
  s.assertInitialised
  let index := s.findIndexOfFirstBitrateLessOrEqual targetBitrate
  if index = -1 then return (false, s)
  else s.switchChannel index.toUInt32

def limitBitRate (s : SwitchController) (minBitrate maxBitrate : UInt32) :
    Except Fault (Bool × SwitchController) := do
  s.assertInitialised
  let minIndex := s.findIndexOfFirstBitrateGreaterOrEqual minBitrate
  let maxIndex := s.findIndexOfFirstBitrateLessOrEqual maxBitrate
  if minIndex = -1 ∨ maxIndex = -1 then return (false, s)
  else s.limitChannel minIndex.toUInt32 maxIndex.toUInt32

/-- The calls of the controller's user. -/
inductive Operation
  | switchUp
  | switchDown
  | switchChannel (channel : UInt32)
  | switchBitRate (targetBitrate : UInt32)
  | limitChannel (minChannel maxChannel : UInt32)
  | limitBitRate (minBitrate maxBitrate : UInt32)
  | updateCurrentChannel
  | resetSwitchFlag
  deriving DecidableEq

/-- A pending switch is carried out by an update to its target and then acknowledged; outside
this protocol the two calls are not made. -/
def step (s : SwitchController) : Operation → Except Fault SwitchController
  | .switchUp => Prod.snd <$> s.switchUp
  | .switchDown => Prod.snd <$> s.switchDown
  | .switchChannel channel => Prod.snd <$> s.switchChannel channel
  | .switchBitRate targetBitrate => Prod.snd <$> s.switchBitRate targetBitrate
  | .limitChannel minChannel maxChannel => Prod.snd <$> s.limitChannel minChannel maxChannel
  | .limitBitRate minBitrate maxBitrate => Prod.snd <$> s.limitBitRate minBitrate maxBitrate
  | .updateCurrentChannel =>
    .ok (if s.switchFlag then s.updateCurrentChannel s.targetChannel else s)
  | .resetSwitchFlag =>
    .ok (if s.switchFlag ∧ s.currentChannel = s.targetChannel then s.resetSwitchFlag else s)

variable {s : SwitchController}

def Within (minChannel maxChannel channel : UInt32) : Prop :=
  minChannel ≤ channel ∧ channel ≤ maxChannel

instance (minChannel maxChannel channel : UInt32) :
    Decidable (Within minChannel maxChannel channel) :=
  inferInstanceAs (Decidable (_ ∧ _))

/-- The channel the switching is at, or heads for, is within the limits. -/
def Consistent (s : SwitchController) : Prop :=
  Within s.minChannel s.maxChannel (if s.switchFlag then s.targetChannel else s.currentChannel)

instance : Decidable s.Consistent := inferInstanceAs (Decidable (Within ..))

section Channels
variable {c m M : UInt32}

theorem toInt_toInt32 (c : UInt32) : c.toInt32.toInt = (c.toNat : ℤ).bmod (2 ^ 32) :=
  BitVec.toInt_eq_toNat_bmod c.toBitVec

/-- A step up that is not refused stays within the limits unless it wraps around. -/
theorem within_up_iff (h : Within m M c) :
    (¬ c + 1 > M → Within m M (c + 1)) ↔ ¬ (c = 0xFFFFFFFF ∧ 0 < m) := by
  obtain ⟨hmin, hmax⟩ := h
  have hlt := c.toNat_lt
  have hlast : (0xFFFFFFFF : UInt32).toNat = 2 ^ 32 - 1 := rfl
  have hone : (1 : UInt32).toNat = 1 := rfl
  have hzero : (0 : UInt32).toNat = 0 := rfl
  unfold Within
  rw [gt_iff_lt, ← UInt32.toNat_inj, UInt32.lt_iff_toNat_lt, UInt32.lt_iff_toNat_lt,
    UInt32.le_iff_toNat_le, UInt32.le_iff_toNat_le, UInt32.toNat_add, hlast, hone, hzero]
  rw [UInt32.le_iff_toNat_le] at hmin hmax
  omega

/-- A step down that is not refused stays within the limits unless the limit is the number
that turns negative as an `int`. -/
theorem within_down_iff (h : Within m M c) :
    (¬ (c - 1).toInt32 < m.toInt32 → Within m M (c - 1)) ↔ ¬ (c = m ∧ m = 0x80000000) := by
  obtain ⟨hmin, hmax⟩ := h
  have hlt := c.toNat_lt
  have hlt' := m.toNat_lt
  have hhalf : (0x80000000 : UInt32).toNat = 2 ^ 31 := rfl
  have hone : (1 : UInt32).toNat = 1 := rfl
  unfold Within
  rw [Int32.lt_iff_toInt_lt, toInt_toInt32, toInt_toInt32, ← UInt32.toNat_inj,
    ← UInt32.toNat_inj, UInt32.le_iff_toNat_le, UInt32.le_iff_toNat_le, UInt32.toNat_sub,
    hhalf, hone]
  rw [UInt32.le_iff_toNat_le] at hmin hmax
  unfold Int.bmod
  dsimp only
  split_ifs <;> omega

end Channels

section Operations

/-- The assertion of an initialised controller is passed. -/
theorem assertInitialised_bind {β : Type} (h : s.initialised = true)
    (rest : Unit → Except Fault β) : (s.assertInitialised >>= rest) = rest () := by
  rw [assertInitialised, if_pos h]
  rfl

theorem switchUp_ok (h : s.initialised = true) :
    s.switchUp = .ok (decide (¬ s.currentChannel + 1 > s.maxChannel), { s with
      currentChannel :=
        if s.currentChannel + 1 > s.maxChannel then s.currentChannel
        else s.currentChannel + 1 }) := by
  unfold switchUp
  rw [assertInitialised_bind h]
  dsimp only
  by_cases habove : s.currentChannel + 1 > s.maxChannel
  · rw [if_pos habove, if_pos habove, UInt32.add_sub_cancel, decide_eq_false (not_not_intro habove)]
    rfl
  · rw [if_neg habove, if_neg habove, decide_eq_true habove]
    rfl

theorem switchDown_ok (h : s.initialised = true) :
    s.switchDown = .ok (decide (¬ (s.currentChannel - 1).toInt32 < s.minChannel.toInt32), { s with
      currentChannel :=
        if (s.currentChannel - 1).toInt32 < s.minChannel.toInt32 then s.currentChannel
        else s.currentChannel - 1 }) := by
  unfold switchDown
  rw [assertInitialised_bind h]
  dsimp only
  by_cases hbelow : (s.currentChannel - 1).toInt32 < s.minChannel.toInt32
  · rw [if_pos hbelow, if_pos hbelow, decide_eq_false (not_not_intro hbelow)]
    rfl
  · rw [if_neg hbelow, if_neg hbelow, decide_eq_true hbelow, UInt32.toUInt32_toInt32]
    rfl

theorem switchChannel_ok (h : s.initialised = true) (channel : UInt32) :
    ∃ scheduled, s.switchChannel channel = .ok (scheduled,
      if Within s.minChannel s.maxChannel channel then
        { s with
          targetChannel := channel
          switchFlag := s.switchFlag || decide (channel ≠ s.currentChannel) }
      else s) := by
  have houtside : (channel < s.minChannel ∨ channel > s.maxChannel) ↔
      ¬ Within s.minChannel s.maxChannel channel := by
    unfold Within
    rw [not_and_or, UInt32.not_le, UInt32.not_le]
  unfold switchChannel
  rw [assertInitialised_bind h]
  dsimp only
  by_cases hwithin : Within s.minChannel s.maxChannel channel
  · rw [if_neg (by rw [houtside]; exact not_not_intro hwithin), if_pos hwithin]
    by_cases hcurrent : channel = s.currentChannel
    · rw [if_neg (not_not_intro hcurrent)]
      exact ⟨false, by simp [hcurrent, pure, Except.pure]⟩
    · rw [if_pos hcurrent]
      exact ⟨true, by simp [hcurrent, pure, Except.pure]⟩
  · rw [if_pos (houtside.mpr hwithin), if_neg hwithin]
    exact ⟨false, rfl⟩

/-- Switching to a bitrate is switching to a channel. -/
theorem switchBitRate_ok (h : s.initialised = true) (targetBitrate : UInt32) :
    s.switchBitRate targetBitrate = .ok (false, s) ∨
      ∃ channel, s.switchBitRate targetBitrate = s.switchChannel channel := by
  unfold switchBitRate
  rw [assertInitialised_bind h]
  dsimp only
  by_cases hnone : s.findIndexOfFirstBitrateLessOrEqual targetBitrate = -1
  · rw [if_pos hnone]
    exact .inl rfl
  · rw [if_neg hnone]
    exact .inr ⟨_, rfl⟩

/-- The limits are in order and inside the list. -/
def Accepts (s : SwitchController) (minChannel maxChannel : UInt32) : Prop :=
  minChannel ≤ maxChannel ∧ minChannel.toNat < s.bitrates.length ∧
    maxChannel.toNat < s.bitrates.length

instance (minChannel maxChannel : UInt32) : Decidable (s.Accepts minChannel maxChannel) :=
  inferInstanceAs (Decidable (_ ∧ _))

theorem readBitrate_ok {bitrates : List UInt32} {channel : UInt32}
    (h : channel.toNat < bitrates.length) :
    ∃ bitrate, readBitrate bitrates channel = .ok bitrate := by
  unfold readBitrate
  rw [List.getElem?_eq_getElem h]
  exact ⟨_, rfl⟩

/-- The maximum channel of a list is inside it, even where the size is truncated. -/
theorem maxChannel_lt {bitrates : List UInt32} (hbitrates : bitrates ≠ []) :
    (UInt32.ofNat bitrates.length - 1).toNat < bitrates.length := by
  have hone : (1 : UInt32).toNat = 1 := rfl
  have hpos := List.length_pos_iff.mpr hbitrates
  rw [UInt32.toNat_sub, UInt32.toNat_ofNat', hone]
  omega

theorem setChannelBitrates_ok (s : SwitchController) {bitrates : List UInt32}
    (hbitrates : bitrates ≠ []) :
    ∃ minBitrate maxBitrate, readBitrate bitrates 0 = .ok minBitrate ∧
      readBitrate bitrates (UInt32.ofNat bitrates.length - 1) = .ok maxBitrate ∧
      s.setChannelBitrates bitrates = .ok { s with
        bitrates := bitrates.insertionSort (· ≤ ·)
        minChannel := 0
        maxChannel := UInt32.ofNat bitrates.length - 1
        minBitrate
        maxBitrate
        initialised := true } := by
  have hfirst : (0 : UInt32).toNat < bitrates.length := List.length_pos_iff.mpr hbitrates
  obtain ⟨minBitrate, hminBitrate⟩ := readBitrate_ok hfirst
  obtain ⟨maxBitrate, hmaxBitrate⟩ := readBitrate_ok (maxChannel_lt hbitrates)
  exact ⟨minBitrate, maxBitrate, hminBitrate, hmaxBitrate,
    bind_ok.mpr ⟨_, hminBitrate, bind_ok.mpr ⟨_, hmaxBitrate, rfl⟩⟩⟩

/-- Scheduling the switch that new limits need keeps the limits and the bitrates. -/
theorem setSwitchFlagIfNecessary_limits (s : SwitchController) :
    s.setSwitchFlagIfNecessary.bitrates = s.bitrates ∧
      s.setSwitchFlagIfNecessary.minChannel = s.minChannel ∧
      s.setSwitchFlagIfNecessary.maxChannel = s.maxChannel := by
  unfold setSwitchFlagIfNecessary
  split_ifs <;> exact ⟨rfl, rfl, rfl⟩

theorem limitChannel_accepted (h : s.initialised = true) {minChannel maxChannel : UInt32}
    (haccepts : s.Accepts minChannel maxChannel) :
    ∃ minBitrate maxBitrate, readBitrate s.bitrates minChannel = .ok minBitrate ∧
      readBitrate s.bitrates maxChannel = .ok maxBitrate ∧
      s.limitChannel minChannel maxChannel = .ok (true,
        { s with minChannel, maxChannel, minBitrate, maxBitrate }.setSwitchFlagIfNecessary) := by
  obtain ⟨hle, hmin, hmax⟩ := haccepts
  obtain ⟨minBitrate, hminBitrate⟩ := readBitrate_ok hmin
  obtain ⟨maxBitrate, hmaxBitrate⟩ := readBitrate_ok hmax
  refine ⟨minBitrate, maxBitrate, hminBitrate, hmaxBitrate, ?_⟩
  unfold limitChannel
  rw [assertInitialised_bind h]
  rw [if_neg (by rwa [UInt32.not_lt]), if_neg (by omega), if_neg (by omega), hminBitrate,
    hmaxBitrate]
  rfl

theorem limitChannel_rejected (h : s.initialised = true) {minChannel maxChannel : UInt32}
    (hrejects : ¬ s.Accepts minChannel maxChannel) :
    s.limitChannel minChannel maxChannel = .ok (false, s) := by
  unfold limitChannel
  rw [assertInitialised_bind h]
  split_ifs with hlt hmin hmax
  · rfl
  · rfl
  · rfl
  · exact absurd ⟨UInt32.not_lt.mp hlt, Nat.lt_of_not_le hmin, Nat.lt_of_not_le hmax⟩ hrejects

theorem findLessOrEqual_eq (bitrate : UInt32) (bitrates : List UInt32) (i : ℕ) (index : Int32) :
    findLessOrEqual bitrate bitrates i index =
      if (bitrates.takeWhile (· ≤ bitrate)).length = 0 then index
      else Int32.ofNat (i + (bitrates.takeWhile (· ≤ bitrate)).length - 1) := by
  induction bitrates generalizing i index with
  | nil => rfl
  | cons b bs ih =>
    unfold findLessOrEqual
    by_cases hle : b ≤ bitrate
    · rw [if_pos hle, ih, List.takeWhile_cons_of_pos (by simpa using hle)]
      cases hrest : bs.takeWhile (· ≤ bitrate) with
      | nil => simp
      | cons b' bs' =>
        simp only [List.length_cons]
        rw [if_neg (Nat.succ_ne_zero _), if_neg (Nat.succ_ne_zero _)]
        congr 1
        omega
    · rw [if_neg hle, List.takeWhile_cons_of_neg (by simpa using hle)]
      rfl

theorem findGreaterOrEqual_eq (bitrate : UInt32) (bitrates : List UInt32) (i : ℕ) :
    findGreaterOrEqual bitrate bitrates i =
      if bitrates.findIdx (bitrate ≤ ·) < bitrates.length then
        Int32.ofNat (i + bitrates.findIdx (bitrate ≤ ·))
      else -1 := by
  induction bitrates generalizing i with
  | nil => rfl
  | cons b bs ih =>
    unfold findGreaterOrEqual
    by_cases hle : bitrate ≤ b
    · simp [hle, List.findIdx_cons]
    · rw [if_neg hle, ih]
      simp [hle, List.findIdx_cons, Nat.add_assoc, Nat.add_comm 1]

/-- The channels of the first bitrate that is not below the minimum and of the last one of
those at the front that are not above the maximum. An index that is -1 as an `int` is taken
for none. -/
def requestedLimits (s : SwitchController) (minBitrate maxBitrate : UInt32) :
    Option (UInt32 × UInt32) :=
  let first := s.bitrates.findIdx (minBitrate ≤ ·)
  let upTo := (s.bitrates.takeWhile (· ≤ maxBitrate)).length
  if first < s.bitrates.length ∧ Int32.ofNat first ≠ -1 ∧ upTo ≠ 0 ∧
      Int32.ofNat (upTo - 1) ≠ -1 then
    some (UInt32.ofNat first, UInt32.ofNat (upTo - 1))
  else none

/-- Limiting to bitrates is limiting to the channels they request. -/
theorem limitBitRate_eq (h : s.initialised = true) (minBitrate maxBitrate : UInt32) :
    s.limitBitRate minBitrate maxBitrate =
      match s.requestedLimits minBitrate maxBitrate with
      | some (minChannel, maxChannel) => s.limitChannel minChannel maxChannel
      | none => .ok (false, s) := by
  unfold limitBitRate requestedLimits
  rw [assertInitialised_bind h]
  dsimp only
  rw [findIndexOfFirstBitrateGreaterOrEqual, findIndexOfFirstBitrateLessOrEqual,
    findGreaterOrEqual_eq, findLessOrEqual_eq, Nat.zero_add, Nat.zero_add]
  by_cases hfirst : s.bitrates.findIdx (minBitrate ≤ ·) < s.bitrates.length
  · by_cases hupTo : (s.bitrates.takeWhile (· ≤ maxBitrate)).length = 0
    · simp [hupTo, pure, Except.pure]
    · rw [if_pos hfirst, if_neg hupTo]
      by_cases hnone : Int32.ofNat (s.bitrates.findIdx (minBitrate ≤ ·)) = -1 ∨
          Int32.ofNat ((s.bitrates.takeWhile (· ≤ maxBitrate)).length - 1) = -1
      · rw [if_pos hnone, if_neg (by tauto)]
        rfl
      · rw [if_neg hnone, if_pos (by tauto)]
        rfl
  · simp [hfirst, pure, Except.pure]

end Operations

section Consistency

/-- A pending target survives new limits that the current channel meets. -/
def TargetSurvives (s : SwitchController) (minChannel maxChannel : UInt32) : Prop :=
  s.Accepts minChannel maxChannel → s.switchFlag = true →
    Within minChannel maxChannel s.currentChannel → Within minChannel maxChannel s.targetChannel

/-- What keeps the switching within the limits. -/
def Guarded (s : SwitchController) : Operation → Prop
  | .switchUp => s.switchFlag = false → ¬ (s.currentChannel = 0xFFFFFFFF ∧ 0 < s.minChannel)
  | .switchDown =>
    s.switchFlag = false → ¬ (s.currentChannel = s.minChannel ∧ s.minChannel = 0x80000000)
  | .limitChannel minChannel maxChannel => s.TargetSurvives minChannel maxChannel
  | .limitBitRate minBitrate maxBitrate =>
    ∀ limits, s.requestedLimits minBitrate maxBitrate = some limits →
      s.TargetSurvives limits.1 limits.2
  | .switchChannel _ => True
  | .switchBitRate _ => True
  | .updateCurrentChannel => True
  | .resetSwitchFlag => True

theorem setSwitchFlagIfNecessary_consistent_iff (hle : s.minChannel ≤ s.maxChannel) :
    s.setSwitchFlagIfNecessary.Consistent ↔
      (s.switchFlag = true → Within s.minChannel s.maxChannel s.currentChannel →
        Within s.minChannel s.maxChannel s.targetChannel) := by
  unfold setSwitchFlagIfNecessary
  split_ifs with hbelow habove
  · apply iff_of_true
    · exact ⟨UInt32.le_refl _, hle⟩
    · intro _ hwithin
      exact absurd hwithin.1 (UInt32.not_le.mpr hbelow)
  · apply iff_of_true
    · exact ⟨hle, UInt32.le_refl _⟩
    · intro _ hwithin
      exact absurd hwithin.2 (UInt32.not_le.mpr habove)
  · have hwithin : Within s.minChannel s.maxChannel s.currentChannel :=
      ⟨UInt32.not_lt.mp hbelow, UInt32.not_lt.mp habove⟩
    unfold Consistent
    cases s.switchFlag with
    | true => simp [hwithin]
    | false => simp [hwithin]

/-- An accepted limit keeps the switching within the limits just when a pending target
survives it; a rejected one changes nothing. -/
theorem limitChannel_ok (h : s.initialised = true) (hs : s.Consistent)
    (minChannel maxChannel : UInt32) :
    ∃ possible t, s.limitChannel minChannel maxChannel = .ok (possible, t) ∧
      t.initialised = true ∧ (t.Consistent ↔ s.TargetSurvives minChannel maxChannel) := by
  by_cases haccepts : s.Accepts minChannel maxChannel
  · obtain ⟨minBitrate, maxBitrate, -, -, hlimit⟩ := limitChannel_accepted h haccepts
    refine ⟨true, _, hlimit, ?_, ?_⟩
    · unfold setSwitchFlagIfNecessary
      split_ifs <;> exact h
    · rw [setSwitchFlagIfNecessary_consistent_iff haccepts.1]
      unfold TargetSurvives
      simp only [haccepts, true_implies]
  · refine ⟨false, s, limitChannel_rejected h haccepts, h, ?_⟩
    apply iff_of_true hs
    intro haccepts'
    exact absurd haccepts' haccepts

theorem switchChannel_consistent (h : s.initialised = true) (hs : s.Consistent)
    (channel : UInt32) : ∃ scheduled t, s.switchChannel channel = .ok (scheduled, t) ∧
      t.initialised = true ∧ t.Consistent := by
  obtain ⟨scheduled, hswitch⟩ := switchChannel_ok h channel
  refine ⟨scheduled, _, hswitch, ?_, ?_⟩
  · split_ifs <;> exact h
  · split_ifs with hwithin
    · unfold Consistent at hs ⊢
      dsimp only
      cases hflag : s.switchFlag with
      | true => simpa using hwithin
      | false =>
        rw [hflag] at hs
        by_cases hcurrent : channel = s.currentChannel
        · simpa [hcurrent] using hs
        · simpa [hcurrent] using hwithin
    · exact hs

theorem switchUp_consistent_iff (h : s.initialised = true) (hs : s.Consistent) :
    ∃ possible t, s.switchUp = .ok (possible, t) ∧ t.initialised = true ∧
      (t.Consistent ↔
        (s.switchFlag = false → ¬ (s.currentChannel = 0xFFFFFFFF ∧ 0 < s.minChannel))) := by
  refine ⟨_, _, switchUp_ok h, h, ?_⟩
  unfold Consistent at *
  dsimp only
  cases hflag : s.switchFlag with
  | true => simpa [hflag] using hs
  | false =>
    rw [hflag] at hs
    have hiff := within_up_iff hs
    simp only [Bool.false_eq_true, if_false, true_implies] at hs hiff ⊢
    rw [← hiff]
    split_ifs with habove
    · simp [habove, hs]
    · simp [habove]

theorem switchDown_consistent_iff (h : s.initialised = true) (hs : s.Consistent) :
    ∃ possible t, s.switchDown = .ok (possible, t) ∧ t.initialised = true ∧
      (t.Consistent ↔
        (s.switchFlag = false →
          ¬ (s.currentChannel = s.minChannel ∧ s.minChannel = 0x80000000))) := by
  refine ⟨_, _, switchDown_ok h, h, ?_⟩
  unfold Consistent at *
  dsimp only
  cases hflag : s.switchFlag with
  | true => simpa [hflag] using hs
  | false =>
    rw [hflag] at hs
    have hiff := within_down_iff hs
    simp only [Bool.false_eq_true, if_false, true_implies] at hs hiff ⊢
    rw [← hiff]
    split_ifs with hbelow
    · exact iff_of_true hs fun hnot => absurd hbelow hnot
    · exact ⟨fun hwithin _ => hwithin, fun hwithin => hwithin hbelow⟩

theorem updateCurrentChannel_consistent (hs : s.Consistent) (hflag : s.switchFlag = true) :
    (s.updateCurrentChannel s.targetChannel).Consistent := by
  unfold Consistent at hs ⊢
  rw [hflag] at hs
  simpa [updateCurrentChannel, hflag] using hs

/-- A switch may be acknowledged once it is carried out. -/
theorem resetSwitchFlag_consistent (hs : s.Consistent) (hflag : s.switchFlag = true)
    (hcurrent : s.currentChannel = s.targetChannel) : s.resetSwitchFlag.Consistent := by
  unfold Consistent at hs ⊢
  rw [hflag] at hs
  simpa [resetSwitchFlag, hcurrent] using hs

theorem map_snd_ok {x : Except Fault (Bool × SwitchController)} {possible : Bool}
    {t : SwitchController} (h : x = .ok (possible, t)) : Prod.snd <$> x = .ok t := by
  rw [h]
  rfl

/-- An initialised controller takes every operation, and one whose switching is within the
limits keeps it there exactly when the operation is guarded. -/
theorem step_consistent_iff (h : s.initialised = true) (hs : s.Consistent) (op : Operation) :
    ∃ t, step s op = .ok t ∧ t.initialised = true ∧ (t.Consistent ↔ s.Guarded op) := by
  cases op with
  | switchUp =>
    obtain ⟨possible, t, hup, ht, hiff⟩ := switchUp_consistent_iff h hs
    exact ⟨t, map_snd_ok hup, ht, hiff⟩
  | switchDown =>
    obtain ⟨possible, t, hdown, ht, hiff⟩ := switchDown_consistent_iff h hs
    exact ⟨t, map_snd_ok hdown, ht, hiff⟩
  | switchChannel channel =>
    obtain ⟨scheduled, t, hswitch, ht, hconsistent⟩ := switchChannel_consistent h hs channel
    exact ⟨t, map_snd_ok hswitch, ht, iff_of_true hconsistent trivial⟩
  | switchBitRate targetBitrate =>
    rcases switchBitRate_ok h targetBitrate with hnone | ⟨channel, hchannel⟩
    · exact ⟨s, map_snd_ok hnone, h, iff_of_true hs trivial⟩
    · obtain ⟨scheduled, t, hswitch, ht, hconsistent⟩ := switchChannel_consistent h hs channel
      rw [← hchannel] at hswitch
      exact ⟨t, map_snd_ok hswitch, ht, iff_of_true hconsistent trivial⟩
  | limitChannel minChannel maxChannel =>
    obtain ⟨possible, t, hlimit, ht, hiff⟩ := limitChannel_ok h hs minChannel maxChannel
    exact ⟨t, map_snd_ok hlimit, ht, hiff⟩
  | limitBitRate minBitrate maxBitrate =>
    have heq := limitBitRate_eq h minBitrate maxBitrate
    unfold Guarded
    cases hrequest : s.requestedLimits minBitrate maxBitrate with
    | none =>
      rw [hrequest] at heq
      exact ⟨s, map_snd_ok heq, h, iff_of_true hs (by simp [hrequest])⟩
    | some limits =>
      obtain ⟨possible, t, hlimit, ht, hiff⟩ := limitChannel_ok h hs limits.1 limits.2
      rw [hrequest] at heq
      exact ⟨t, map_snd_ok (heq.trans hlimit), ht, by simpa [hrequest] using hiff⟩
  | updateCurrentChannel =>
    refine ⟨_, rfl, by split_ifs <;> exact h, iff_of_true ?_ trivial⟩
    split_ifs with hflag
    · exact updateCurrentChannel_consistent hs hflag
    · exact hs
  | resetSwitchFlag =>
    refine ⟨_, rfl, by split_ifs <;> exact h, iff_of_true ?_ trivial⟩
    split_ifs with hcarriedOut
    · exact resetSwitchFlag_consistent hs hcarriedOut.1 hcarriedOut.2
    · exact hs

/-- The list of bitrates and the current channel that a controller is set up with. -/
structure Configuration where
  bitrates : List UInt32
  current : UInt32
  inside : current.toNat < bitrates.length

/-- Set the current channel of a new controller, then its bitrates. -/
def Configuration.start (c : Configuration) : Except Fault SwitchController :=
  (updateCurrentChannel {} c.current).setChannelBitrates c.bitrates

theorem start_ok (c : Configuration) :
    ∃ s, c.start = .ok s ∧ s.initialised = true ∧
      (s.Consistent ↔ c.current ≤ UInt32.ofNat c.bitrates.length - 1) := by
  have hbitrates : c.bitrates ≠ [] := List.length_pos_iff.mp (Nat.zero_lt_of_lt c.inside)
  obtain ⟨minBitrate, maxBitrate, -, -, hset⟩ :=
    setChannelBitrates_ok (updateCurrentChannel {} c.current) hbitrates
  refine ⟨_, hset, rfl, ?_⟩
  unfold Consistent Within updateCurrentChannel
  simp

/-- In every sequence of operations each state keeps the switching within the limits exactly
when the start does and every operation is guarded. -/
theorem consistent_iff (c : Configuration) (operations : List Operation) :
    ∃ s₀, c.start = .ok s₀ ∧
      ((∀ before after, operations = before ++ after →
          ∃ s, run step s₀ before = .ok s ∧ s.Consistent) ↔
        c.current ≤ UInt32.ofNat c.bitrates.length - 1 ∧
          Along step (fun _ s op => s.Guarded op) s₀ operations) := by
  obtain ⟨s₀, hstart, hinit, hconsistent⟩ := start_ok c
  refine ⟨s₀, hstart, ?_⟩
  rw [← hconsistent]
  have hkept (es : List Operation) (m : SwitchController) (op : Operation)
      (t : SwitchController) (hm : m.initialised = true) (hlimits : m.Consistent)
      (ht : step m op = .ok t) : t.initialised = true := by
    obtain ⟨t', ht', hinit', -⟩ := step_consistent_iff hm hlimits op
    rw [ht] at ht'
    cases ht'
    exact hinit'
  have hnext (es : List Operation) (m : SwitchController) (op : Operation)
      (hm : m.initialised = true) (hlimits : m.Consistent) :
      (∃ t, step m op = .ok t ∧ t.Consistent) ↔ m.Guarded op := by
    obtain ⟨t, ht, -, hiff⟩ := step_consistent_iff hm hlimits op
    rw [← hiff, ht]
    simp
  exact reaches_iff_of_start (R := fun _ (s : SwitchController) => s.Consistent) hinit hkept hnext
    operations

/-- Three channels, the first one current. -/
def threeChannels : Configuration := ⟨[100, 200, 300], 0, by decide⟩

/-- A switch to the third channel is pending when the limits exclude that channel; the target
stays. -/
theorem pending_target_stays :
    ∃ s₀ s, threeChannels.start = .ok s₀ ∧
      run step s₀ [.switchChannel 2, .limitChannel 0 1] = .ok s ∧
      s.switchFlag = true ∧ s.targetChannel = 2 ∧ s.maxChannel = 1 ∧ ¬ s.Consistent := by
  exact ⟨_, _, rfl, rfl, by decide⟩

end Consistency

end SwitchController

end LiveMediaExt.Media
