import LiveMediaExt.SortedRanges
import LiveMediaExt.SwitchController

/-!
# Limits given as bitrates

The bitrates are sorted when they are set and never change afterwards, whatever the user calls.
Limiting to a range of bitrates then finds the range of channels that have them.
-/
namespace LiveMediaExt.Media.SwitchController
open Execution SortedRanges

/-- The calls that a user may make in any order once the bitrates are set. -/
inductive Call
  | switchUp
  | switchDown
  | switchChannel (channel : UInt32)
  | switchBitRate (targetBitrate : UInt32)
  | limitChannel (minChannel maxChannel : UInt32)
  | limitBitRate (minBitrate maxBitrate : UInt32)
  | updateCurrentChannel (channel : UInt32)
  | resetSwitchFlag
  deriving DecidableEq

def callStep (s : SwitchController) : Call → Except Fault SwitchController
  | .switchUp => Prod.snd <$> s.switchUp
  | .switchDown => Prod.snd <$> s.switchDown
  | .switchChannel channel => Prod.snd <$> s.switchChannel channel
  | .switchBitRate targetBitrate => Prod.snd <$> s.switchBitRate targetBitrate
  | .limitChannel minChannel maxChannel => Prod.snd <$> s.limitChannel minChannel maxChannel
  | .limitBitRate minBitrate maxBitrate => Prod.snd <$> s.limitBitRate minBitrate maxBitrate
  | .updateCurrentChannel channel => .ok (s.updateCurrentChannel channel)
  | .resetSwitchFlag => .ok s.resetSwitchFlag

/-- All that a call can do to a controller. -/
inductive Effect (s : SwitchController) : Call → SwitchController → Prop
  | unchanged (call : Call) : Effect s call s
  | up (habove : ¬ s.currentChannel + 1 > s.maxChannel) :
      Effect s .switchUp { s with currentChannel := s.currentChannel + 1 }
  | down (hbelow : ¬ (s.currentChannel - 1).toInt32 < s.minChannel.toInt32) :
      Effect s .switchDown { s with currentChannel := s.currentChannel - 1 }
  | schedule (call : Call) (targetChannel : UInt32) (switchFlag : Bool)
      (hwithin : Within s.minChannel s.maxChannel targetChannel) :
      Effect s call { s with targetChannel, switchFlag }
  | limit (call : Call) (minChannel maxChannel minBitrate maxBitrate : UInt32)
      (haccepts : s.Accepts minChannel maxChannel)
      (hmin : readBitrate s.bitrates minChannel = .ok minBitrate)
      (hmax : readBitrate s.bitrates maxChannel = .ok maxBitrate) :
      Effect s call
        { s with minChannel, maxChannel, minBitrate, maxBitrate }.setSwitchFlagIfNecessary
  | update (channel : UInt32) :
      Effect s (.updateCurrentChannel channel) (s.updateCurrentChannel channel)
  | reset : Effect s .resetSwitchFlag s.resetSwitchFlag

section Effects
variable {s : SwitchController}

theorem switchChannel_effect (h : s.initialised = true) (call : Call) (channel : UInt32) :
    ∃ scheduled t, s.switchChannel channel = .ok (scheduled, t) ∧ Effect s call t := by
  obtain ⟨scheduled, hswitch⟩ := switchChannel_ok h channel
  refine ⟨scheduled, _, hswitch, ?_⟩
  split_ifs with hwithin
  · exact .schedule call channel _ hwithin
  · exact .unchanged call

theorem limitChannel_effect (h : s.initialised = true) (call : Call)
    (minChannel maxChannel : UInt32) :
    ∃ possible t, s.limitChannel minChannel maxChannel = .ok (possible, t) ∧ Effect s call t := by
  by_cases haccepts : s.Accepts minChannel maxChannel
  · obtain ⟨minBitrate, maxBitrate, hmin, hmax, hlimit⟩ := limitChannel_accepted h haccepts
    exact ⟨true, _, hlimit, .limit call _ _ _ _ haccepts hmin hmax⟩
  · exact ⟨false, s, limitChannel_rejected h haccepts, .unchanged call⟩

/-- An initialised controller takes every call. -/
theorem callStep_effect (h : s.initialised = true) (call : Call) :
    ∃ t, callStep s call = .ok t ∧ Effect s call t := by
  cases call with
  | switchUp =>
    refine ⟨_, map_snd_ok (switchUp_ok h), ?_⟩
    split_ifs with habove
    · exact .unchanged _
    · exact .up habove
  | switchDown =>
    refine ⟨_, map_snd_ok (switchDown_ok h), ?_⟩
    split_ifs with hbelow
    · exact .unchanged _
    · exact .down hbelow
  | switchChannel channel =>
    obtain ⟨scheduled, t, hswitch, ht⟩ := switchChannel_effect h _ channel
    exact ⟨t, map_snd_ok hswitch, ht⟩
  | switchBitRate targetBitrate =>
    rcases switchBitRate_ok h targetBitrate with hnone | ⟨channel, hchannel⟩
    · exact ⟨s, map_snd_ok hnone, .unchanged _⟩
    · obtain ⟨scheduled, t, hswitch, ht⟩ := switchChannel_effect h _ channel
      rw [← hchannel] at hswitch
      exact ⟨t, map_snd_ok hswitch, ht⟩
  | limitChannel minChannel maxChannel =>
    obtain ⟨possible, t, hlimit, ht⟩ := limitChannel_effect h _ minChannel maxChannel
    exact ⟨t, map_snd_ok hlimit, ht⟩
  | limitBitRate minBitrate maxBitrate =>
    have heq := limitBitRate_eq h minBitrate maxBitrate
    cases hrequest : s.requestedLimits minBitrate maxBitrate with
    | none =>
      rw [hrequest] at heq
      exact ⟨s, map_snd_ok heq, .unchanged _⟩
    | some limits =>
      obtain ⟨possible, t, hlimit, ht⟩ := limitChannel_effect h _ limits.1 limits.2
      rw [hrequest] at heq
      exact ⟨t, map_snd_ok (heq.trans hlimit), ht⟩
  | updateCurrentChannel channel => exact ⟨_, rfl, .update channel⟩
  | resetSwitchFlag => exact ⟨_, rfl, .reset⟩

end Effects

/-- The controller is set up for these channels. -/
structure SetUp (s : SwitchController) (bitrates : List UInt32) : Prop where
  initialised : s.initialised = true
  bitrates_eq : s.bitrates = bitrates

section Calls
variable {s t : SwitchController} {bitrates : List UInt32}

theorem Effect.setUp {call : Call} (heffect : Effect s call t) (h : s.SetUp bitrates) :
    t.SetUp bitrates := by
  obtain ⟨hinitialised, hbitrates⟩ := h
  cases heffect with
  | limit =>
    unfold setSwitchFlagIfNecessary
    split_ifs <;> exact ⟨hinitialised, hbitrates⟩
  | _ => exact ⟨hinitialised, hbitrates⟩

/-- Every call returns and keeps the bitrates. -/
theorem callStep_setUp (h : s.SetUp bitrates) (call : Call) :
    ∃ t, callStep s call = .ok t ∧ t.SetUp bitrates := by
  obtain ⟨t, ht, heffect⟩ := callStep_effect h.initialised call
  exact ⟨t, ht, heffect.setUp h⟩

/-- Every sequence of calls returns and keeps the bitrates. -/
theorem calls_setUp (h : s.SetUp bitrates) (calls : List Call) :
    ∃ t, run callStep s calls = .ok t ∧ t.SetUp bitrates := by
  induction calls generalizing s with
  | nil => exact ⟨s, rfl, h⟩
  | cons call calls ih =>
    obtain ⟨t, ht, hsetUp⟩ := callStep_setUp h call
    rw [run_cons_ok ht]
    exact ih hsetUp

/-- Setting the bitrates of at least one channel returns. -/
theorem setChannelBitrates_setUp (s : SwitchController) (hbitrates : bitrates ≠ []) :
    ∃ t, s.setChannelBitrates bitrates = .ok t ∧ t.SetUp (bitrates.insertionSort (· ≤ ·)) := by
  obtain ⟨minBitrate, maxBitrate, -, -, hset⟩ := setChannelBitrates_ok s hbitrates
  exact ⟨_, hset, rfl, rfl⟩

end Calls

section Limits
variable {s : SwitchController} {bitrates : List UInt32}

/-- An index of a list that an `int` counts is not taken for none. -/
theorem ofNat_ne_none {i : ℕ} (h : i < 2 ^ 31) : Int32.ofNat i ≠ -1 := by
  intro hnone
  have hvalue := congrArg Int32.toInt hnone
  rw [Int32.toInt_ofNat_of_lt h] at hvalue
  have hminus : (-1 : Int32).toInt = -1 := rfl
  omega

theorem toNat_ofNat_index {i : ℕ} (h : i < 2 ^ 31) : (UInt32.ofNat i).toNat = i := by
  rw [UInt32.toNat_ofNat']
  omega

theorem pairwise_above {l : List UInt32} (hsorted : l.Pairwise (· ≤ ·)) (lo : UInt32) :
    l.Pairwise fun a b => decide (lo ≤ a) = true → decide (lo ≤ b) = true := by
  apply hsorted.imp
  intro a b hab ha
  simp only [decide_eq_true_eq] at ha ⊢
  exact UInt32.le_trans ha hab

theorem pairwise_below {l : List UInt32} (hsorted : l.Pairwise (· ≤ ·)) (hi : UInt32) :
    l.Pairwise fun a b => decide (b ≤ hi) = true → decide (a ≤ hi) = true := by
  apply hsorted.imp
  intro a b hab hb
  simp only [decide_eq_true_eq] at hb ⊢
  exact UInt32.le_trans hab hb

/-- The channels of a sorted list that lie between the limits. -/
theorem requestedLimits_eq (h : s.SetUp bitrates) (hlength : bitrates.length < 2 ^ 31)
    (lo hi : UInt32) :
    s.requestedLimits lo hi =
      if bitrates.findIdx (lo ≤ ·) < bitrates.length ∧
          (bitrates.takeWhile (· ≤ hi)).length ≠ 0 then
        some (UInt32.ofNat (bitrates.findIdx (lo ≤ ·)),
          UInt32.ofNat ((bitrates.takeWhile (· ≤ hi)).length - 1))
      else none := by
  have hupTo := (List.takeWhile_prefix (l := bitrates) (· ≤ hi)).length_le
  unfold requestedLimits
  rw [h.bitrates_eq]
  dsimp only
  by_cases hboth : bitrates.findIdx (lo ≤ ·) < bitrates.length ∧
      (bitrates.takeWhile (· ≤ hi)).length ≠ 0
  · rw [if_pos hboth, if_pos]
    exact ⟨hboth.1, ofNat_ne_none (by omega), hboth.2, ofNat_ne_none (by omega)⟩
  · rw [if_neg hboth, if_neg]
    intro hall
    exact hboth ⟨hall.1, hall.2.2.1⟩

/-- What limiting to a range of bitrates does to a controller of sorted channels. -/
theorem limitBitRate_ok (h : s.SetUp bitrates) (hsorted : bitrates.Pairwise (· ≤ ·))
    (hlength : bitrates.length < 2 ^ 31) (lo hi : UInt32) :
    ∃ possible t, s.limitBitRate lo hi = .ok (possible, t) ∧
      (possible = true ↔ ∃ b ∈ bitrates, lo ≤ b ∧ b ≤ hi) ∧
      (possible = true → t.bitrates = bitrates ∧
        ∀ c : ℕ, (t.minChannel.toNat ≤ c ∧ c ≤ t.maxChannel.toNat) ↔
          ∃ b, bitrates[c]? = some b ∧ lo ≤ b ∧ b ≤ hi) ∧
      (possible = false → t = s) := by
  have habove := pairwise_above hsorted lo
  have hbelow := pairwise_below hsorted hi
  have hnonempty := range_nonempty_iff habove hbelow
  have hrange (c : ℕ) := range_iff (i := c) habove hbelow
  have hupTo := (List.takeWhile_prefix (l := bitrates) (· ≤ hi)).length_le
  simp only [decide_eq_true_eq] at hnonempty hrange
  rw [limitBitRate_eq h.initialised, requestedLimits_eq h hlength]
  generalize bitrates.findIdx (lo ≤ ·) = first at hnonempty hrange ⊢
  generalize (bitrates.takeWhile (· ≤ hi)).length = upTo at hnonempty hrange hupTo ⊢
  by_cases hempty : first < upTo
  · have hfirst : (UInt32.ofNat first).toNat = first := toNat_ofNat_index (by omega)
    have hlast : (UInt32.ofNat (upTo - 1)).toNat = upTo - 1 := toNat_ofNat_index (by omega)
    have haccepts : s.Accepts (UInt32.ofNat first) (UInt32.ofNat (upTo - 1)) := by
      unfold Accepts
      rw [UInt32.le_iff_toNat_le, hfirst, hlast, h.bitrates_eq]
      omega
    obtain ⟨minBitrate, maxBitrate, -, -, hlimit⟩ := limitChannel_accepted h.initialised haccepts
    rw [if_pos (by omega)]
    refine ⟨true, _, hlimit, iff_of_true rfl (hnonempty.mp hempty), ?_, by simp⟩
    intro _
    obtain ⟨hbitrates, hmin, hmax⟩ := setSwitchFlagIfNecessary_limits
      { s with
        minChannel := UInt32.ofNat first, maxChannel := UInt32.ofNat (upTo - 1)
        minBitrate, maxBitrate }
    refine ⟨hbitrates.trans h.bitrates_eq, ?_⟩
    intro c
    rw [← hrange, hmin, hmax, hfirst, hlast]
    omega
  · have hnone := mt hnonempty.mpr hempty
    refine ⟨false, s, ?_, iff_of_false Bool.false_ne_true hnone, by simp, fun _ => rfl⟩
    split_ifs with hboth
    · apply limitChannel_rejected h.initialised
      intro haccepts
      have hle := UInt32.le_iff_toNat_le.mp haccepts.1
      rw [toNat_ofNat_index (by omega), toNat_ofNat_index (by omega)] at hle
      omega
    · rfl

end Limits

/-- In every state that the calls reach, limiting to a range of bitrates succeeds exactly when a
channel's bitrate lies in it, and then leaves the channels whose bitrates do. -/
theorem limitBitRate_exact (new : SwitchController) (bitrates : List UInt32)
    (hbitrates : bitrates ≠ []) (hlength : bitrates.length < 2 ^ 31) (calls : List Call) :
    ∃ s₀ s, new.setChannelBitrates bitrates = .ok s₀ ∧ run callStep s₀ calls = .ok s ∧
      s.bitrates.Perm bitrates ∧ s.bitrates.Pairwise (· ≤ ·) ∧
      ∀ lo hi, ∃ possible t, s.limitBitRate lo hi = .ok (possible, t) ∧
        (possible = true ↔ ∃ b ∈ bitrates, lo ≤ b ∧ b ≤ hi) ∧
        (possible = true → t.bitrates = s.bitrates ∧
          ∀ c : ℕ, (t.minChannel.toNat ≤ c ∧ c ≤ t.maxChannel.toNat) ↔
            ∃ b, t.bitrates[c]? = some b ∧ lo ≤ b ∧ b ≤ hi) ∧
        (possible = false → t = s) := by
  have hperm := List.perm_insertionSort (· ≤ ·) bitrates
  have hsorted := List.pairwise_insertionSort (· ≤ ·) bitrates
  obtain ⟨s₀, hset, hsetUp⟩ := setChannelBitrates_setUp new hbitrates
  obtain ⟨s, hrun, h⟩ := calls_setUp hsetUp calls
  refine ⟨s₀, s, hset, hrun, h.bitrates_eq ▸ hperm, h.bitrates_eq ▸ hsorted, ?_⟩
  intro lo hi
  obtain ⟨possible, t, hlimit, hpossible, hexact, hunchanged⟩ :=
    limitBitRate_ok h hsorted (by rwa [hperm.length_eq]) lo hi
  refine ⟨possible, t, hlimit, ?_, ?_, hunchanged⟩
  · simp only [hpossible, hperm.mem_iff]
  · intro htrue
    obtain ⟨hsame, hchannels⟩ := hexact htrue
    rw [hsame, h.bitrates_eq]
    exact ⟨rfl, hchannels⟩

/-- Four unsorted channels, two of them alike, in the state after a limit and a switch. -/
theorem limitBitRate_exact_four :
    ∃ s₀ s, setChannelBitrates {} [300, 100, 200, 100] = .ok s₀ ∧
      run callStep s₀ [.limitChannel 1 2, .switchDown] = .ok s ∧
      s.bitrates.Perm [300, 100, 200, 100] ∧ s.bitrates.Pairwise (· ≤ ·) ∧
      ∀ lo hi, ∃ possible t, s.limitBitRate lo hi = .ok (possible, t) ∧
        (possible = true ↔ ∃ b ∈ [300, 100, 200, 100], lo ≤ b ∧ b ≤ hi) ∧
        (possible = true → t.bitrates = s.bitrates ∧
          ∀ c : ℕ, (t.minChannel.toNat ≤ c ∧ c ≤ t.maxChannel.toNat) ↔
            ∃ b, t.bitrates[c]? = some b ∧ lo ≤ b ∧ b ≤ hi) ∧
        (possible = false → t = s) :=
  limitBitRate_exact {} [300, 100, 200, 100] (by decide) (by decide)
    [.limitChannel 1 2, .switchDown]

end LiveMediaExt.Media.SwitchController
