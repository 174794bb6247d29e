import LiveMediaExt.ChannelIndices
import LiveMediaExt.Ladders
import LiveMediaExt.Stuttering

/-!
# The switch controller as a climber

The controller counts its channels with unsigned 32-bit numbers, compares some of them as signed
ones, and finds the channels of a bitrate by loops that count with an `int`. Whatever it is asked,
it answers like a climber on the ladder of its bitrates, as long as these are fewer than `int`s and
the current channel is only updated to one of them.
-/
namespace LiveMediaExt.Media.SwitchController
open Execution Ladders Stuttering

/-- A call with what it returns, which is nothing where the flag is reset. -/
def reply (s : SwitchController) : Call → Except Fault (Option Bool × SwitchController)
  | .switchUp => Prod.map some id <$> s.switchUp
  | .switchDown => Prod.map some id <$> s.switchDown
  | .switchChannel channel => Prod.map some id <$> s.switchChannel channel
  | .switchBitRate targetBitrate => Prod.map some id <$> s.switchBitRate targetBitrate
  | .limitChannel minChannel maxChannel =>
    Prod.map some id <$> s.limitChannel minChannel maxChannel
  | .limitBitRate minBitrate maxBitrate =>
    Prod.map some id <$> s.limitBitRate minBitrate maxBitrate
  | .updateCurrentChannel channel => .ok (some true, s.updateCurrentChannel channel)
  | .resetSwitchFlag => .ok (none, s.resetSwitchFlag)

/-- The answers so far and the controller. -/
def converse (d : List (Option Bool) × SwitchController) (call : Call) :
    Except Fault (List (Option Bool) × SwitchController) := do
  let (answer, s) ← d.2.reply call
  return (d.1 ++ [answer], s)

/-- What a call asks of a climber. -/
def Call.order : Call → Order ℕ
  | .switchUp => .up
  | .switchDown => .down
  | .switchChannel channel => .goTo channel.toNat
  | .switchBitRate targetBitrate => .goToRate targetBitrate.toNat
  | .limitChannel minChannel maxChannel => .hold minChannel.toNat maxChannel.toNat
  | .limitBitRate minBitrate maxBitrate => .holdToRates minBitrate.toNat maxBitrate.toNat
  | .updateCurrentChannel channel => .standOn channel.toNat
  | .resetSwitchFlag => .arrived

def ladder (bitrates : List UInt32) : List ℕ := bitrates.map UInt32.toNat

/-- The controller is where the climber is. -/
structure Climbs (bitrates : List UInt32) (s : SwitchController) (c : Climber) : Prop where
  setUp : s.SetUp bitrates
  current : s.currentChannel.toNat = c.current
  target : s.targetChannel.toNat = c.target
  lowest : s.minChannel.toNat = c.lowest
  highest : s.maxChannel.toNat = c.highest
  pending : s.switchFlag = c.pending

/-- The channels at the front are the rungs there. -/
theorem takeWhile_ladder (bitrates : List UInt32) (bitrate : UInt32) :
    ((ladder bitrates).takeWhile (· ≤ bitrate.toNat)).length =
      (bitrates.takeWhile (· ≤ bitrate)).length := by
  unfold ladder
  rw [List.takeWhile_map, List.length_map]
  congr 2

theorem findIdx_ladder (bitrates : List UInt32) (bitrate : UInt32) :
    (ladder bitrates).findIdx (bitrate.toNat ≤ ·) = bitrates.findIdx (bitrate ≤ ·) := by
  unfold ladder
  rw [List.findIdx_map]
  congr 1

theorem length_ladder (bitrates : List UInt32) : (ladder bitrates).length = bitrates.length :=
  List.length_map _

theorem ladder_sorted {bitrates : List UInt32} (hsorted : bitrates.Pairwise (· ≤ ·)) :
    (ladder bitrates).Pairwise (· ≤ ·) :=
  List.pairwise_map.mpr (hsorted.imp UInt32.le_iff_toNat_le.mp)

section Simulation
variable {s : SwitchController} {c : Climber} {bitrates : List UInt32}
  (h : Climbs bitrates s c)
include h

theorem Climbs.initialised : s.initialised = true := h.setUp.initialised

theorem Climbs.inRange (hlength : bitrates.length < 2 ^ 31) (hon : OnLadder bitrates.length c) :
    s.InRange where
  initialised := h.initialised
  length_lt := by rwa [h.setUp.bitrates_eq]
  min_le_max := by
    rw [UInt32.le_iff_toNat_le, h.lowest, h.highest]
    exact hon.lowest_le
  min_lt := by
    rw [h.setUp.bitrates_eq, h.lowest]
    exact hon.lowest_le.trans_lt hon.highest_lt
  max_lt := by
    rw [h.setUp.bitrates_eq, h.highest]
    exact hon.highest_lt
  current_lt := by
    rw [h.setUp.bitrates_eq, h.current]
    exact hon.current_lt
  target_lt := by
    rw [h.setUp.bitrates_eq, h.target]
    exact hon.target_lt

theorem Climbs.up (hlength : bitrates.length < 2 ^ 31) (hon : OnLadder bitrates.length c) :
    ∃ t, s.switchUp = .ok (c.up.1, t) ∧ Climbs bitrates t c.up.2 := by
  have hrange := h.inRange hlength hon
  have hup := switchUp_ok h.initialised
  simp only [hrange.above_iff, not_not, h.current, h.highest] at hup
  unfold Climber.up
  by_cases hroom : c.current < c.highest
  · simp only [hroom, decide_true, not_true_eq_false, if_false] at hup
    rw [if_pos hroom]
    refine ⟨_, hup, { h with current := ?_, setUp := ⟨h.initialised, h.setUp.bitrates_eq⟩ }⟩
    dsimp only
    rw [toNat_add_one hrange.current_lt_int, h.current]
  · simp only [hroom, decide_false, not_false_eq_true, if_true] at hup
    rw [if_neg hroom]
    exact ⟨_, hup, { h with }⟩

theorem Climbs.down (hlength : bitrates.length < 2 ^ 31) (hon : OnLadder bitrates.length c) :
    ∃ t, s.switchDown = .ok (c.down.1, t) ∧ Climbs bitrates t c.down.2 := by
  have hrange := h.inRange hlength hon
  have hdown := switchDown_ok h.initialised
  simp only [hrange.below_iff, not_not, h.current, h.lowest] at hdown
  unfold Climber.down
  by_cases hroom : c.lowest < c.current
  · simp only [hroom, decide_true, not_true_eq_false, if_false] at hdown
    rw [if_pos hroom]
    refine ⟨_, hdown, { h with current := ?_, setUp := ⟨h.initialised, h.setUp.bitrates_eq⟩ }⟩
    dsimp only
    rw [toNat_sub_one (by rw [h.current]; omega), h.current]
  · simp only [hroom, decide_false, not_false_eq_true, if_true] at hdown
    rw [if_neg hroom]
    exact ⟨_, hdown, { h with }⟩

/-- What switching to a channel answers and does. -/
theorem Climbs.goTo {channel : UInt32} {rung : ℕ} (hrung : channel.toNat = rung) :
    ∃ t, s.switchChannel channel = .ok ((c.goTo rung).1, t) ∧
      Climbs bitrates t (c.goTo rung).2 := by
  have hcurrent : channel ≠ s.currentChannel ↔ rung ≠ c.current := by
    rw [← hrung, ← h.current, Ne, Ne, UInt32.toNat_inj]
  have houtside : (channel < s.minChannel ∨ channel > s.maxChannel) ↔
      ¬ (c.lowest ≤ rung ∧ rung ≤ c.highest) := by
    rw [gt_iff_lt, UInt32.lt_iff_toNat_lt, UInt32.lt_iff_toNat_lt, h.lowest, h.highest, hrung]
    omega
  unfold switchChannel Climber.goTo
  rw [assertInitialised_bind h.initialised]
  simp only [houtside]
  by_cases hrange : c.lowest ≤ rung ∧ rung ≤ c.highest
  · rw [if_neg (not_not_intro hrange), if_pos hrange]
    simp only [hcurrent]
    by_cases hmove : rung ≠ c.current
    · rw [if_pos hmove, decide_eq_true hmove, Bool.or_true]
      exact ⟨_, rfl, { h with setUp := ⟨h.initialised, h.setUp.bitrates_eq⟩
                              target := hrung, pending := rfl }⟩
    · rw [if_neg hmove, decide_eq_false hmove, Bool.or_false]
      exact ⟨_, rfl, { h with setUp := ⟨h.initialised, h.setUp.bitrates_eq⟩, target := hrung }⟩
  · rw [if_pos hrange, if_neg hrange]
    exact ⟨_, rfl, h⟩

/-- A switch that new limits need goes to the nearest channel inside. -/
theorem Climbs.comeBack (hle : c.lowest ≤ c.highest) :
    Climbs bitrates s.setSwitchFlagIfNecessary c.comeBack := by
  have hbelow : s.currentChannel < s.minChannel ↔ c.current < c.lowest := by
    rw [UInt32.lt_iff_toNat_lt, h.current, h.lowest]
  have habove : s.currentChannel > s.maxChannel ↔ c.highest < c.current := by
    rw [gt_iff_lt, UInt32.lt_iff_toNat_lt, h.current, h.highest]
  have hsetUp (t : SwitchController) (hinitialised : t.initialised = s.initialised)
      (hbitrates : t.bitrates = s.bitrates) : t.SetUp bitrates :=
    ⟨hinitialised.trans h.initialised, hbitrates.trans h.setUp.bitrates_eq⟩
  unfold setSwitchFlagIfNecessary Climber.comeBack
  simp only [hbelow, habove]
  by_cases hlow : c.current < c.lowest
  · rw [if_pos hlow, if_neg (by omega), min_eq_left (by omega), max_eq_left (by omega)]
    exact { h with setUp := hsetUp _ rfl rfl, target := h.lowest, pending := rfl }
  · rw [if_neg hlow]
    by_cases hhigh : c.highest < c.current
    · rw [if_pos hhigh, if_neg (by omega), min_eq_right (by omega), max_eq_right (by omega)]
      exact { h with setUp := hsetUp _ rfl rfl, target := h.highest, pending := rfl }
    · rw [if_neg hhigh, if_pos (by omega)]
      exact h

theorem Climbs.hold {minChannel maxChannel : UInt32} {lowest highest : ℕ}
    (hmin : minChannel.toNat = lowest) (hmax : maxChannel.toNat = highest) :
    ∃ t, s.limitChannel minChannel maxChannel =
        .ok ((c.hold bitrates.length lowest highest).1, t) ∧
      Climbs bitrates t (c.hold bitrates.length lowest highest).2 := by
  have haccepts : s.Accepts minChannel maxChannel ↔
      lowest ≤ highest ∧ highest < bitrates.length := by
    unfold Accepts
    rw [UInt32.le_iff_toNat_le, h.setUp.bitrates_eq, hmin, hmax]
    omega
  unfold Climber.hold
  by_cases hrange : lowest ≤ highest ∧ highest < bitrates.length
  · obtain ⟨minBitrate, maxBitrate, -, -, hlimit⟩ :=
      limitChannel_accepted h.initialised (haccepts.mpr hrange)
    rw [if_pos hrange]
    refine ⟨_, hlimit, Climbs.comeBack ?_ hrange.1⟩
    exact { h with
      setUp := ⟨h.initialised, h.setUp.bitrates_eq⟩, lowest := hmin, highest := hmax }
  · rw [if_neg hrange]
    exact ⟨s, limitChannel_rejected h.initialised (mt haccepts.mp hrange), h⟩

theorem Climbs.goToRate (hsorted : bitrates.Pairwise (· ≤ ·)) (hlength : bitrates.length < 2 ^ 31)
    (targetBitrate : UInt32) :
    ∃ t, s.switchBitRate targetBitrate =
        .ok ((c.goToRate (ladder bitrates) targetBitrate.toNat).1, t) ∧
      Climbs bitrates t (c.goToRate (ladder bitrates) targetBitrate.toNat).2 := by
  have hupTo := (List.takeWhile_prefix (l := bitrates) (· ≤ targetBitrate)).length_le
  rw [Climber.goToRate_eq (ladder_sorted hsorted), takeWhile_ladder]
  unfold switchBitRate findIndexOfFirstBitrateLessOrEqual
  rw [assertInitialised_bind h.initialised, findLessOrEqual_eq, h.setUp.bitrates_eq]
  dsimp only
  generalize (bitrates.takeWhile (· ≤ targetBitrate)).length = upTo at hupTo ⊢
  by_cases hzero : upTo = 0
  · rw [if_pos hzero, if_pos rfl, if_pos hzero]
    exact ⟨s, rfl, h⟩
  · rw [if_neg hzero, if_neg (ofNat_ne_none (by omega)), if_neg hzero, Nat.zero_add]
    exact h.goTo (toNat_ofNat_index (by omega))

theorem Climbs.holdToRates (hsorted : bitrates.Pairwise (· ≤ ·))
    (hlength : bitrates.length < 2 ^ 31) (minBitrate maxBitrate : UInt32) :
    ∃ t, s.limitBitRate minBitrate maxBitrate =
        .ok ((c.holdToRates (ladder bitrates) minBitrate.toNat maxBitrate.toNat).1, t) ∧
      Climbs bitrates t
        (c.holdToRates (ladder bitrates) minBitrate.toNat maxBitrate.toNat).2 := by
  have hupTo := (List.takeWhile_prefix (l := bitrates) (· ≤ maxBitrate)).length_le
  rw [Climber.holdToRates_eq (ladder_sorted hsorted), takeWhile_ladder, findIdx_ladder,
    length_ladder, limitBitRate_eq h.initialised, requestedLimits_eq h.setUp hlength]
  generalize (bitrates.takeWhile (· ≤ maxBitrate)).length = upTo at hupTo ⊢
  generalize bitrates.findIdx (minBitrate ≤ ·) = first
  by_cases hboth : first < bitrates.length ∧ upTo ≠ 0
  · rw [if_pos hboth]
    obtain ⟨t, ht, hclimbs⟩ := h.hold
      (toNat_ofNat_index (i := first) (by omega)) (toNat_ofNat_index (i := upTo - 1) (by omega))
    by_cases hlt : first < upTo
    · rw [if_pos hlt]
      exact ⟨t, ht, hclimbs⟩
    · -- limits in the wrong order are refused
      have hrefused : c.hold bitrates.length first (upTo - 1) = (false, c) :=
        if_neg (by omega)
      rw [if_neg hlt, ← hrefused]
      exact ⟨t, ht, hclimbs⟩
  · rw [if_neg hboth, if_neg (by omega)]
    exact ⟨s, rfl, h⟩

end Simulation

theorem map_reply {x : Except Fault (Bool × SwitchController)} {answer : Bool}
    {t : SwitchController} (h : x = .ok (answer, t)) :
    Prod.map some id <$> x = .ok (some answer, t) := by
  rw [h]
  rfl

/-- One call: the answers are the same, and so are the places after it. -/
theorem Climbs.reply {s : SwitchController} {c : Climber} {bitrates : List UInt32}
    (h : Climbs bitrates s c) (hon : OnLadder bitrates.length c)
    (hsorted : bitrates.Pairwise (· ≤ ·)) (hlength : bitrates.length < 2 ^ 31) (call : Call) :
    ∃ t, s.reply call = .ok ((obey (ladder bitrates) c call.order).1, t) ∧
      Climbs bitrates t (obey (ladder bitrates) c call.order).2 := by
  cases call with
  | switchUp =>
    obtain ⟨t, ht, hclimbs⟩ := h.up hlength hon
    exact ⟨t, map_reply ht, hclimbs⟩
  | switchDown =>
    obtain ⟨t, ht, hclimbs⟩ := h.down hlength hon
    exact ⟨t, map_reply ht, hclimbs⟩
  | switchChannel channel =>
    obtain ⟨t, ht, hclimbs⟩ := h.goTo (rfl : channel.toNat = _)
    exact ⟨t, map_reply ht, hclimbs⟩
  | switchBitRate targetBitrate =>
    obtain ⟨t, ht, hclimbs⟩ := h.goToRate hsorted hlength targetBitrate
    exact ⟨t, map_reply ht, hclimbs⟩
  | limitChannel minChannel maxChannel =>
    obtain ⟨t, ht, hclimbs⟩ := h.hold (rfl : minChannel.toNat = _) (rfl : maxChannel.toNat = _)
    rw [← length_ladder] at ht hclimbs
    exact ⟨t, map_reply ht, hclimbs⟩
  | limitBitRate minBitrate maxBitrate =>
    obtain ⟨t, ht, hclimbs⟩ := h.holdToRates hsorted hlength minBitrate maxBitrate
    exact ⟨t, map_reply ht, hclimbs⟩
  | updateCurrentChannel channel =>
    exact ⟨_, rfl, { h with setUp := ⟨h.initialised, h.setUp.bitrates_eq⟩, current := rfl }⟩
  | resetSwitchFlag =>
    exact ⟨_, rfl, { h with setUp := ⟨h.initialised, h.setUp.bitrates_eq⟩, pending := rfl }⟩

/-- The current channel is only updated to a channel of the list. -/
def Inside (bitrates : List UInt32) (call : Call) : Prop :=
  ∀ channel, call = .updateCurrentChannel channel → channel.toNat < bitrates.length

theorem Inside.standOn {bitrates : List UInt32} {call : Call} (h : Inside bitrates call)
    (rung : ℕ) (horder : call.order = .standOn rung) : rung < (ladder bitrates).length := by
  cases call with
  | updateCurrentChannel channel =>
    obtain rfl := Order.standOn.inj horder
    rw [length_ladder]
    exact h channel rfl
  | _ => cases horder

/-- Any number of calls. -/
theorem Climbs.converse {s : SwitchController} {c : Climber} {bitrates : List UInt32}
    (h : Climbs bitrates s c) (hon : OnLadder bitrates.length c)
    (hsorted : bitrates.Pairwise (· ≤ ·)) (hlength : bitrates.length < 2 ^ 31)
    (answers : List (Option Bool)) {calls : List Call}
    (hinside : ∀ call ∈ calls, Inside bitrates call) :
    ∃ t, run converse (answers, s) calls =
        .ok (answers ++ outputs (obey (ladder bitrates)) c (calls.map Call.order), t) ∧
      Climbs bitrates t (stateAfter (obey (ladder bitrates)) c (calls.map Call.order)) := by
  induction calls generalizing s c answers with
  | nil => exact ⟨s, by rw [List.map_nil, outputs, List.append_nil]; rfl, h⟩
  | cons call calls ih =>
    obtain ⟨hfirst, hrest⟩ := List.forall_mem_cons.mp hinside
    obtain ⟨m, hm, hclimbs⟩ := h.reply hon hsorted hlength call
    have hstep : SwitchController.converse (answers, s) call =
        .ok (answers ++ [(obey (ladder bitrates) c call.order).1], m) :=
      bind_ok.mpr ⟨_, hm, rfl⟩
    have hon' : OnLadder (ladder bitrates).length (obey (ladder bitrates) c call.order).2 :=
      obey_onLadder (by rwa [length_ladder]) call.order hfirst.standOn
    rw [length_ladder] at hon'
    obtain ⟨t, ht, hclimbs'⟩ := ih hclimbs hon' _ hrest
    refine ⟨t, ?_, hclimbs'⟩
    rw [run_cons_ok hstep, ht, List.append_assoc]
    rfl

/-- Where a climber starts that stands for a controller which has just been set up. -/
def Configuration.climber (config : Configuration) : Climber where
  current := config.current.toNat
  target := 0
  lowest := 0
  highest := config.bitrates.length - 1
  pending := false

theorem start_climbs (config : Configuration) (hlength : config.bitrates.length < 2 ^ 31) :
    ∃ s₀, config.start = .ok s₀ ∧
      Climbs (config.bitrates.insertionSort (· ≤ ·)) s₀ config.climber := by
  have hpos : 0 < config.bitrates.length := Nat.zero_lt_of_lt config.inside
  obtain ⟨minBitrate, maxBitrate, -, -, hset⟩ :=
    setChannelBitrates_ok (updateCurrentChannel {} config.current) (List.length_pos_iff.mp hpos)
  have hmax : (UInt32.ofNat config.bitrates.length - 1).toNat = config.bitrates.length - 1 := by
    have hsize : (UInt32.ofNat config.bitrates.length).toNat = config.bitrates.length :=
      toNat_ofNat_index hlength
    rw [toNat_sub_one (by omega), hsize]
  exact ⟨_, hset, ⟨⟨rfl, rfl⟩, rfl, rfl, rfl, hmax, rfl⟩⟩

/-- In every conversation the controller answers as a climber does on the ladder of the sorted
bitrates, and is where the climber is. -/
theorem answers_like_climber (config : Configuration) (calls : List Call)
    (hlength : config.bitrates.length < 2 ^ 31)
    (hinside : ∀ call ∈ calls, Inside config.bitrates call) :
    ∃ s₀ s, config.start = .ok s₀ ∧
      run converse ([], s₀) calls =
        .ok (outputs (obey (ladder (config.bitrates.insertionSort (· ≤ ·)))) config.climber
          (calls.map Call.order), s) ∧
      Climbs (config.bitrates.insertionSort (· ≤ ·)) s
        (stateAfter (obey (ladder (config.bitrates.insertionSort (· ≤ ·)))) config.climber
          (calls.map Call.order)) := by
  have hperm := List.perm_insertionSort (· ≤ ·) config.bitrates
  have hsorted := List.pairwise_insertionSort (· ≤ ·) config.bitrates
  have hpos : 0 < config.bitrates.length := Nat.zero_lt_of_lt config.inside
  obtain ⟨s₀, hset, hstart⟩ := start_climbs config hlength
  have hon : OnLadder (config.bitrates.insertionSort (· ≤ ·)).length config.climber := by
    rw [hperm.length_eq]
    exact ⟨config.inside, hpos, Nat.zero_le _, Nat.sub_lt hpos one_pos⟩
  have hinside' : ∀ call ∈ calls, Inside (config.bitrates.insertionSort (· ≤ ·)) call := by
    intro call hcall channel heq
    rw [hperm.length_eq]
    exact hinside call hcall channel heq
  obtain ⟨s, hrun, hclimbs⟩ :=
    hstart.converse hon hsorted (by rwa [hperm.length_eq]) [] hinside'
  exact ⟨s₀, s, hset, hrun, hclimbs⟩

/-- Three channels given in falling order. -/
theorem answers_like_climber_three : ∃ s₀ s,
    Configuration.start ⟨[300, 200, 100], 0, by decide⟩ = .ok s₀ ∧
    run converse ([], s₀) [.switchDown, .limitBitRate 150 400, .switchBitRate 250, .switchUp,
      .resetSwitchFlag] = .ok ([some false, some true, some true, some true, none], s) ∧
    s.currentChannel = 1 ∧ s.minChannel = 1 := by
  obtain ⟨s₀, s, hstart, hrun, hclimbs⟩ := answers_like_climber ⟨[300, 200, 100], 0, by decide⟩
    [.switchDown, .limitBitRate 150 400, .switchBitRate 250, .switchUp, .resetSwitchFlag]
    (by decide) (by simp [Inside])
  refine ⟨s₀, s, hstart, hrun, ?_, ?_⟩
  · rw [← UInt32.toNat_inj, hclimbs.current]
    rfl
  · rw [← UInt32.toNat_inj, hclimbs.lowest]
    rfl

end LiveMediaExt.Media.SwitchController
