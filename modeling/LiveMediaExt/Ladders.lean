import LiveMediaExt.SortedRanges

/-!
# Climbing a ladder

The rungs of a ladder have rates. A climber stands on a rung, is held to a range of rungs and may
have been told to change to another rung: by its number, or as the highest one whose rate does not
pass a bound. It can be held to the rungs whose rates lie in a range.
-/
namespace LiveMediaExt.Ladders
open SortedRanges

structure Climber where
  current : ℕ
  target : ℕ
  lowest : ℕ
  highest : ℕ
  pending : Bool
  deriving DecidableEq

/-- The rungs whose rates meet the predicate. -/
def rungs {ρ : Type*} (rates : List ρ) (p : ρ → Prop) [DecidablePred p] : Finset ℕ :=
  (Finset.range rates.length).filter fun i => (rates[i]?).any (p ·) = true

namespace Climber

def up (c : Climber) : Bool × Climber :=
  if c.current < c.highest then (true, { c with current := c.current + 1 }) else (false, c)

def down (c : Climber) : Bool × Climber :=
  if c.lowest < c.current then (true, { c with current := c.current - 1 }) else (false, c)

/-- The climber is told the rung, and whether it has to move. -/
def goTo (c : Climber) (rung : ℕ) : Bool × Climber :=
  if c.lowest ≤ rung ∧ rung ≤ c.highest then
    (decide (rung ≠ c.current),
      { c with target := rung, pending := c.pending || decide (rung ≠ c.current) })
  else (false, c)

/-- Outside its range it is told the nearest rung inside. -/
def comeBack (c : Climber) : Climber :=
  if c.lowest ≤ c.current ∧ c.current ≤ c.highest then c
  else { c with target := max c.lowest (min c.current c.highest), pending := true }

def hold (c : Climber) (height lowest highest : ℕ) : Bool × Climber :=
  if lowest ≤ highest ∧ highest < height then (true, { c with lowest, highest }.comeBack)
  else (false, c)

variable {ρ : Type*} [LinearOrder ρ]

def goToRate (c : Climber) (rates : List ρ) (rate : ρ) : Bool × Climber :=
  if h : (rungs rates (· ≤ rate)).Nonempty then c.goTo ((rungs rates (· ≤ rate)).max' h)
  else (false, c)

def holdToRates (c : Climber) (rates : List ρ) (lo hi : ρ) : Bool × Climber :=
  let within := rungs rates fun rate => lo ≤ rate ∧ rate ≤ hi
  if h : within.Nonempty then c.hold rates.length (within.min' h) (within.max' h) else (false, c)

end Climber

inductive Order (ρ : Type*)
  | up
  | down
  | goTo (rung : ℕ)
  | goToRate (rate : ρ)
  | hold (lowest highest : ℕ)
  | holdToRates (lo hi : ρ)
  | standOn (rung : ℕ)
  | arrived

/-- The answer to an order, if it has one, and the climber after it. -/
def obey {ρ : Type*} [LinearOrder ρ] (rates : List ρ) (c : Climber) :
    Order ρ → Option Bool × Climber
  | .up => c.up.map some id
  | .down => c.down.map some id
  | .goTo rung => (c.goTo rung).map some id
  | .goToRate rate => (c.goToRate rates rate).map some id
  | .hold lowest highest => (c.hold rates.length lowest highest).map some id
  | .holdToRates lo hi => (c.holdToRates rates lo hi).map some id
  | .standOn rung => (some true, { c with current := rung })
  | .arrived => (none, { c with pending := false })

/-- The climber and its range are on the ladder. -/
structure OnLadder (height : ℕ) (c : Climber) : Prop where
  current_lt : c.current < height
  target_lt : c.target < height
  lowest_le : c.lowest ≤ c.highest
  highest_lt : c.highest < height

section Rungs
variable {ρ : Type*} {rates : List ρ} {i : ℕ}

theorem mem_rungs {p : ρ → Prop} [DecidablePred p] :
    i ∈ rungs rates p ↔ ∃ rate, rates[i]? = some rate ∧ p rate := by
  unfold rungs
  rw [Finset.mem_filter, Finset.mem_range, Option.any_eq_true]
  simp only [decide_eq_true_eq]
  constructor
  · exact fun h => h.2
  · rintro ⟨rate, hrate, hp⟩
    exact ⟨(List.getElem?_eq_some_iff.mp hrate).1, rate, hrate, hp⟩

variable [LinearOrder ρ] (hsorted : rates.Pairwise (· ≤ ·))
include hsorted

/-- Where the rates grow, those up to a bound are the first ones. -/
theorem rungs_le (rate : ρ) :
    rungs rates (· ≤ rate) = Finset.range (rates.takeWhile (· ≤ rate)).length := by
  have hbelow : rates.Pairwise fun a b => decide (b ≤ rate) = true → decide (a ≤ rate) = true :=
    hsorted.imp fun hab hb => by simpa using hab.trans (by simpa using hb)
  ext i
  rw [mem_rungs, Finset.mem_range]
  constructor
  · rintro ⟨a, ha, hle⟩
    exact (lt_takeWhile_iff hbelow ha).mpr (decide_eq_true hle)
  · intro hlt
    have hi := hlt.trans_le (List.takeWhile_prefix (l := rates) (· ≤ rate)).length_le
    have ha := List.getElem?_eq_getElem hi
    exact ⟨_, ha, by simpa using (lt_takeWhile_iff hbelow ha).mp hlt⟩

/-- Those between two bounds are consecutive. -/
theorem rungs_between (lo hi : ρ) :
    (rungs rates fun rate => lo ≤ rate ∧ rate ≤ hi) =
      Finset.Ico (rates.findIdx (lo ≤ ·)) (rates.takeWhile (· ≤ hi)).length := by
  have habove : rates.Pairwise fun a b => decide (lo ≤ a) = true → decide (lo ≤ b) = true :=
    hsorted.imp fun hab ha => by simpa using (show lo ≤ _ by simpa using ha).trans hab
  have hbelow : rates.Pairwise fun a b => decide (b ≤ hi) = true → decide (a ≤ hi) = true :=
    hsorted.imp fun hab hb => by simpa using hab.trans (by simpa using hb)
  ext i
  rw [mem_rungs, Finset.mem_Ico, range_iff habove hbelow]
  simp only [decide_eq_true_eq]

/-- The highest rung up to a rate is the last of the first ones. -/
theorem Climber.goToRate_eq (c : Climber) (rate : ρ) :
    c.goToRate rates rate =
      if (rates.takeWhile (· ≤ rate)).length = 0 then (false, c)
      else c.goTo ((rates.takeWhile (· ≤ rate)).length - 1) := by
  have hrungs := rungs_le hsorted rate
  unfold Climber.goToRate
  generalize (rates.takeWhile (· ≤ rate)).length = upTo at hrungs
  by_cases hzero : upTo = 0
  · rw [dif_neg (by simp [hrungs, hzero]), if_pos hzero]
  · have hne : (rungs rates (· ≤ rate)).Nonempty := by
      rw [hrungs, Finset.nonempty_range_iff]
      exact hzero
    have hmax : (rungs rates (· ≤ rate)).max' hne = upTo - 1 := by
      rw [Finset.max'_eq_iff, hrungs]
      simp only [Finset.mem_range]
      exact ⟨by omega, fun b hb => by omega⟩
    rw [dif_pos hne, hmax, if_neg hzero]

/-- The range of the rates is one of rungs. -/
theorem Climber.holdToRates_eq (c : Climber) (lo hi : ρ) :
    c.holdToRates rates lo hi =
      if rates.findIdx (lo ≤ ·) < (rates.takeWhile (· ≤ hi)).length then
        c.hold rates.length (rates.findIdx (lo ≤ ·)) ((rates.takeWhile (· ≤ hi)).length - 1)
      else (false, c) := by
  have hrungs := rungs_between hsorted lo hi
  unfold Climber.holdToRates
  dsimp only
  generalize rates.findIdx (lo ≤ ·) = first at hrungs ⊢
  generalize (rates.takeWhile (· ≤ hi)).length = upTo at hrungs ⊢
  by_cases hlt : first < upTo
  · have hne : (rungs rates fun rate => lo ≤ rate ∧ rate ≤ hi).Nonempty := by
      rw [hrungs, Finset.nonempty_Ico]
      exact hlt
    have hmin : (rungs rates fun rate => lo ≤ rate ∧ rate ≤ hi).min' hne = first := by
      rw [Finset.min'_eq_iff, hrungs]
      simp only [Finset.mem_Ico]
      exact ⟨by omega, fun b hb => hb.1⟩
    have hmax : (rungs rates fun rate => lo ≤ rate ∧ rate ≤ hi).max' hne = upTo - 1 := by
      rw [Finset.max'_eq_iff, hrungs]
      simp only [Finset.mem_Ico]
      exact ⟨by omega, fun b hb => by omega⟩
    rw [dif_pos hne, hmin, hmax, if_pos hlt]
  · rw [dif_neg (by simpa [hrungs] using hlt), if_neg hlt]

end Rungs

section Range
variable {ρ : Type*} [LinearOrder ρ] {rates : List ρ} {c : Climber} {height : ℕ}

theorem OnLadder.goTo (h : OnLadder height c) (rung : ℕ) : OnLadder height (c.goTo rung).2 := by
  unfold Climber.goTo
  split_ifs with hrange
  · exact { h with target_lt := hrange.2.trans_lt h.highest_lt }
  · exact h

theorem OnLadder.hold (h : OnLadder height c) (lowest highest : ℕ) :
    OnLadder height (c.hold height lowest highest).2 := by
  unfold Climber.hold
  split_ifs with hrange
  · unfold Climber.comeBack
    split_ifs
    · exact { h with lowest_le := hrange.1, highest_lt := hrange.2 }
    · refine ⟨h.current_lt, ?_, hrange.1, hrange.2⟩
      exact max_lt (hrange.1.trans_lt hrange.2) ((min_le_right _ _).trans_lt hrange.2)
  · exact h

/-- Whatever it is told, a climber that is not put beside the ladder stays on it. -/
theorem obey_onLadder (h : OnLadder rates.length c) (order : Order ρ)
    (hinside : ∀ rung, order = .standOn rung → rung < rates.length) :
    OnLadder rates.length (obey rates c order).2 := by
  cases order with
  | up =>
    change OnLadder _ c.up.2
    unfold Climber.up
    split_ifs with hroom
    · exact { h with current_lt := (Nat.succ_le_of_lt hroom).trans_lt h.highest_lt }
    · exact h
  | down =>
    change OnLadder _ c.down.2
    unfold Climber.down
    split_ifs
    · exact { h with current_lt := (Nat.sub_le _ _).trans_lt h.current_lt }
    · exact h
  | goTo rung => exact h.goTo rung
  | goToRate rate =>
    change OnLadder _ (c.goToRate rates rate).2
    unfold Climber.goToRate
    split_ifs
    · exact h.goTo _
    · exact h
  | hold lowest highest => exact h.hold lowest highest
  | holdToRates lo hi =>
    change OnLadder _ (c.holdToRates rates lo hi).2
    unfold Climber.holdToRates
    dsimp only
    split_ifs
    · exact h.hold _ _
    · exact h
  | standOn rung => exact { h with current_lt := hinside rung rfl }
  | arrived => exact { h with }

end Range

end LiveMediaExt.Ladders
