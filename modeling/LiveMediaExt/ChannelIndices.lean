import LiveMediaExt.BitrateLimits

/-!
# The channel indices of the switch controller

The two limits, the current channel and the target are indices of the list of bitrates. The
current channel may lie outside the limits, when these are new or when a target that was pending
before is switched to, but never outside the list.
-/
namespace LiveMediaExt.Media.SwitchController
open Execution

def getCurrentBitrate (s : SwitchController) : Except Fault UInt32 :=
  readBitrate s.bitrates s.currentChannel

def getTargetChannel (s : SwitchController) : UInt32 := s.targetChannel

/-- The user may also set other bitrates later. -/
inductive Use
  | setChannelBitrates (bitrates : List UInt32)
  | call (call : Call)
  deriving DecidableEq

def useStep (s : SwitchController) : Use → Except Fault SwitchController
  | .setChannelBitrates bitrates => s.setChannelBitrates bitrates
  | .call call => callStep s call

/-- The current channel is only updated to the target. -/
def FromTarget (s : SwitchController) : Call → Prop
  | .updateCurrentChannel channel => channel = s.getTargetChannel
  | _ => True

/-- New bitrates are those of a list that an `int` counts, with the channels that are current and
targeted at the time inside. -/
def Allows (s : SwitchController) : Use → Prop
  | .setChannelBitrates bitrates => bitrates.length < 2 ^ 31 ∧
      s.currentChannel.toNat < bitrates.length ∧ s.getTargetChannel.toNat < bitrates.length
  | .call call => s.FromTarget call

instance (s : SwitchController) (call : Call) : Decidable (s.FromTarget call) :=
  match call with
  | .updateCurrentChannel channel => inferInstanceAs (Decidable (channel = s.getTargetChannel))
  | .switchUp | .switchDown | .switchChannel _ | .switchBitRate _ | .limitChannel _ _
  | .limitBitRate _ _ | .resetSwitchFlag => inferInstanceAs (Decidable True)

instance (s : SwitchController) (use : Use) : Decidable (s.Allows use) :=
  match use with
  | .setChannelBitrates _ => inferInstanceAs (Decidable (_ ∧ _))
  | .call call => inferInstanceAs (Decidable (s.FromTarget call))

structure InRange (s : SwitchController) : Prop where
  initialised : s.initialised = true
  length_lt : s.bitrates.length < 2 ^ 31
  min_le_max : s.minChannel ≤ s.maxChannel
  min_lt : s.minChannel.toNat < s.bitrates.length
  max_lt : s.maxChannel.toNat < s.bitrates.length
  current_lt : s.currentChannel.toNat < s.bitrates.length
  target_lt : s.targetChannel.toNat < s.bitrates.length

/-- The bitrates of the current channel and of the limits can be read, and a step up or down goes
to the next number or is refused at the limit. -/
structure Safe (s : SwitchController) : Prop where
  currentBitrate : ∃ bitrate, s.getCurrentBitrate = .ok bitrate
  minBitrate : ∃ bitrate, readBitrate s.bitrates s.minChannel = .ok bitrate
  maxBitrate : ∃ bitrate, readBitrate s.bitrates s.maxChannel = .ok bitrate
  up : ∃ t, s.switchUp = .ok (decide (s.currentChannel.toNat < s.maxChannel.toNat), t) ∧
    t.currentChannel.toNat =
      if s.currentChannel.toNat < s.maxChannel.toNat then s.currentChannel.toNat + 1
      else s.currentChannel.toNat
  down : ∃ t, s.switchDown = .ok (decide (s.minChannel.toNat < s.currentChannel.toNat), t) ∧
    t.currentChannel.toNat =
      if s.minChannel.toNat < s.currentChannel.toNat then s.currentChannel.toNat - 1
      else s.currentChannel.toNat

section Indices
variable {c : UInt32}

theorem toNat_add_one (h : c.toNat < 2 ^ 31) : (c + 1).toNat = c.toNat + 1 := by
  have hone : (1 : UInt32).toNat = 1 := rfl
  rw [UInt32.toNat_add, hone]
  omega

theorem toNat_sub_one (h : 0 < c.toNat) : (c - 1).toNat = c.toNat - 1 := by
  have hlt := c.toNat_lt
  have hone : (1 : UInt32).toNat = 1 := rfl
  rw [UInt32.toNat_sub, hone]
  omega

theorem toInt_index (h : c.toNat < 2 ^ 31) : c.toInt32.toInt = c.toNat := by
  rw [toInt_toInt32]
  unfold Int.bmod
  dsimp only
  split_ifs <;> omega

/-- One less than an index, zero included, is right as an `int`. -/
theorem toInt_sub_one (h : c.toNat < 2 ^ 31) : (c - 1).toInt32.toInt = c.toNat - 1 := by
  have hone : (1 : UInt32).toNat = 1 := rfl
  rw [toInt_toInt32, UInt32.toNat_sub, hone]
  unfold Int.bmod
  dsimp only
  split_ifs <;> omega

end Indices

section Range
variable {s t : SwitchController}

theorem InRange.current_lt_int (h : s.InRange) : s.currentChannel.toNat < 2 ^ 31 :=
  h.current_lt.trans h.length_lt

theorem InRange.above_iff (h : s.InRange) :
    s.currentChannel + 1 > s.maxChannel ↔ ¬ s.currentChannel.toNat < s.maxChannel.toNat := by
  rw [gt_iff_lt, UInt32.lt_iff_toNat_lt, toNat_add_one h.current_lt_int]
  omega

theorem InRange.below_iff (h : s.InRange) :
    (s.currentChannel - 1).toInt32 < s.minChannel.toInt32 ↔
      ¬ s.minChannel.toNat < s.currentChannel.toNat := by
  rw [Int32.lt_iff_toInt_lt, toInt_sub_one h.current_lt_int,
    toInt_index (h.min_lt.trans h.length_lt)]
  omega

theorem InRange.safe (h : s.InRange) : s.Safe where
  currentBitrate := readBitrate_ok h.current_lt
  minBitrate := readBitrate_ok h.min_lt
  maxBitrate := readBitrate_ok h.max_lt
  up := by
    have hup := switchUp_ok h.initialised
    simp only [h.above_iff, not_not] at hup
    refine ⟨_, hup, ?_⟩
    dsimp only
    split_ifs
    · exact toNat_add_one h.current_lt_int
    · rfl
  down := by
    have hdown := switchDown_ok h.initialised
    simp only [h.below_iff, not_not] at hdown
    refine ⟨_, hdown, ?_⟩
    dsimp only
    split_ifs with hroom
    · exact toNat_sub_one (Nat.zero_lt_of_lt hroom)
    · rfl

/-- New limits that the list has, and the target that they may need. -/
theorem setSwitchFlagIfNecessary_inRange (h : s.InRange) : s.setSwitchFlagIfNecessary.InRange := by
  unfold setSwitchFlagIfNecessary
  split_ifs
  · exact { h with target_lt := h.min_lt }
  · exact { h with target_lt := h.max_lt }
  · exact h

/-- What a call does keeps the indices inside the list. -/
theorem Effect.inRange {call : Call} (heffect : Effect s call t) (h : s.InRange)
    (hcall : s.FromTarget call) : t.InRange := by
  cases heffect with
  | unchanged => exact h
  | up habove =>
    have hbelow := not_not.mp (mt h.above_iff.mpr habove)
    refine { h with current_lt := ?_ }
    dsimp only
    rw [toNat_add_one h.current_lt_int]
    exact lt_of_le_of_lt hbelow h.max_lt
  | down hbelow =>
    have habove := not_not.mp (mt h.below_iff.mpr hbelow)
    refine { h with current_lt := ?_ }
    dsimp only
    rw [toNat_sub_one (Nat.zero_lt_of_lt habove)]
    exact (Nat.sub_le _ _).trans_lt h.current_lt
  | schedule _ targetChannel switchFlag hwithin =>
    have hle := UInt32.le_iff_toNat_le.mp hwithin.2
    exact { h with target_lt := hle.trans_lt h.max_lt }
  | limit _ minChannel maxChannel minBitrate maxBitrate haccepts =>
    obtain ⟨hle, hmin, hmax⟩ := haccepts
    apply setSwitchFlagIfNecessary_inRange
    exact { h with min_le_max := hle, min_lt := hmin, max_lt := hmax }
  | update channel =>
    obtain rfl : channel = s.targetChannel := hcall
    exact { h with current_lt := h.target_lt }
  | reset => exact { h with }

theorem setChannelBitrates_inRange {bitrates : List UInt32} (hlength : bitrates.length < 2 ^ 31)
    (hcurrent : s.currentChannel.toNat < bitrates.length)
    (htarget : s.targetChannel.toNat < bitrates.length) :
    ∃ t, s.setChannelBitrates bitrates = .ok t ∧ t.InRange := by
  have hpos := Nat.zero_lt_of_lt hcurrent
  have hbitrates := List.length_pos_iff.mp hpos
  obtain ⟨minBitrate, maxBitrate, -, -, hset⟩ := setChannelBitrates_ok s hbitrates
  have hsorted : (bitrates.insertionSort (· ≤ ·)).length = bitrates.length :=
    List.length_insertionSort _ _
  refine ⟨_, hset, rfl, ?_, UInt32.zero_le, ?_, ?_, ?_, ?_⟩
  all_goals
    dsimp only
    rw [hsorted]
  · exact hlength
  · exact hpos
  · exact maxChannel_lt hbitrates
  · exact hcurrent
  · exact htarget

/-- One step, over all uses. -/
theorem useStep_inRange (h : s.InRange) {use : Use} (huse : s.Allows use) :
    ∃ t, useStep s use = .ok t ∧ t.InRange := by
  cases use with
  | setChannelBitrates bitrates =>
    obtain ⟨hlength, hcurrent, htarget⟩ := huse
    exact setChannelBitrates_inRange hlength hcurrent htarget
  | call call =>
    obtain ⟨t, ht, heffect⟩ := callStep_effect h.initialised call
    exact ⟨t, ht, heffect.inRange h huse⟩

end Range

/-- In every state after the bitrates were set the limits are in order, all four channels are in
the list, and what reads the list or steps to a channel is safe. -/
theorem indices_inRange (c : Configuration) (hlength : c.bitrates.length < 2 ^ 31)
    (uses : List Use) :
    ∃ s₀, c.start = .ok s₀ ∧
      (Along useStep (fun _ s use => s.Allows use) s₀ uses →
        ∀ before after, uses = before ++ after →
          ∃ s, run useStep s₀ before = .ok s ∧ s.InRange ∧ s.Safe) := by
  obtain ⟨s₀, hstart, hrange⟩ :=
    setChannelBitrates_inRange (s := updateCurrentChannel {} c.current) hlength c.inside
      (Nat.zero_lt_of_lt c.inside)
  refine ⟨s₀, hstart, ?_⟩
  intro hallows before after huses
  have hreach := reaches_of_along (I := fun _ => True) (R := fun _ s => s.InRange) trivial hrange
    (fun _ _ _ _ _ _ _ => trivial) (fun _ _ _ _ h huse => useStep_inRange h huse) hallows
  obtain ⟨s, hs, -, h⟩ := hreach before after huses
  exact ⟨s, hs, h, h.safe⟩

/-- The switch to the third channel is carried out after that channel is excluded. -/
def excludedChannel : List Use :=
  [.call (.switchChannel 2), .call (.limitChannel 0 1), .call (.updateCurrentChannel 2),
    .call .switchUp, .call .switchDown, .setChannelBitrates [300, 100, 200, 100]]

theorem indices_inRange_excludedChannel : ∃ s₀ s, threeChannels.start = .ok s₀ ∧
    run useStep s₀ excludedChannel = .ok s ∧ s.InRange ∧ s.Safe := by
  obtain ⟨s₀, hstart, hrange⟩ := indices_inRange threeChannels (by decide) excludedChannel
  have hallows : Along useStep (fun _ s use => s.Allows use) s₀ excludedChannel := by
    obtain rfl := Except.ok.inj hstart
    decide +kernel
  obtain ⟨s, hs, h, hsafe⟩ := hrange hallows excludedChannel [] (List.append_nil _).symm
  exact ⟨s₀, s, hstart, hs, h, hsafe⟩

end LiveMediaExt.Media.SwitchController
