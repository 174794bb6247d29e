import Mathlib

/-!
# A counter that bounces

The counter goes up by one with every step until it reaches its limit, then down to zero, and up
again. After so many steps its position is read off the remainder of their number.
-/
namespace LiveMediaExt.Bouncing

structure Counter where
  position : ℤ
  up : Bool
  deriving DecidableEq

def bounce (limit : ℕ) (c : Counter) : Counter :=
  if c.up then ⟨c.position + 1, decide (c.position + 1 ≠ limit)⟩
  else ⟨c.position - 1, decide (c.position - 1 = 0)⟩

/-- Whether the counter is on its way up after `k` steps. -/
def rising (limit k : ℕ) : Bool := decide (k % (2 * limit) < limit)

def height (limit k : ℕ) : ℕ :=
  if k % (2 * limit) < limit then k % (2 * limit) else 2 * limit - k % (2 * limit)

variable {limit : ℕ}

theorem succ_mod (hlimit : 0 < limit) (k : ℕ) :
    (k + 1) % (2 * limit) =
      if k % (2 * limit) + 1 = 2 * limit then 0 else k % (2 * limit) + 1 := by
  have hlt : k % (2 * limit) < 2 * limit := Nat.mod_lt _ (by omega)
  have hone : 1 % (2 * limit) = 1 := Nat.mod_eq_of_lt (by omega)
  rw [Nat.add_mod, hone]
  by_cases hlast : k % (2 * limit) + 1 = 2 * limit
  · rw [if_pos hlast, hlast, Nat.mod_self]
  · rw [if_neg hlast, Nat.mod_eq_of_lt (by omega)]

theorem height_le (limit k : ℕ) : height limit k ≤ limit := by
  unfold height
  split_ifs with hrising
  · exact hrising.le
  · omega

/-- One step on the way. -/
theorem bounce_height (hlimit : 0 < limit) (k : ℕ) :
    bounce limit ⟨height limit k, rising limit k⟩ =
      ⟨height limit (k + 1), rising limit (k + 1)⟩ := by
  have hlt : k % (2 * limit) < 2 * limit := Nat.mod_lt _ (by omega)
  unfold bounce height rising
  rw [succ_mod hlimit]
  generalize k % (2 * limit) = r at hlt ⊢
  by_cases hrising : r < limit
  · have hlast : r + 1 ≠ 2 * limit := by omega
    simp only [hrising, hlast, decide_true, if_true, if_false, Counter.mk.injEq]
    by_cases htop : r + 1 = limit
    · have hnext : ¬ r + 1 < limit := by omega
      have hreached : (r : ℤ) + 1 = limit := by exact_mod_cast htop
      rw [if_neg hnext]
      exact ⟨by omega, by simp [hreached, hnext]⟩
    · have hnext : r + 1 < limit := by omega
      have hbelow : (r : ℤ) + 1 ≠ limit := by exact_mod_cast htop
      rw [if_pos hnext]
      exact ⟨by push_cast; rfl, by simp [hbelow, hnext]⟩
  · simp only [hrising, decide_false, if_false, Bool.false_eq_true, Counter.mk.injEq]
    by_cases hlast : r + 1 = 2 * limit
    · have hzero : 2 * limit - r = 1 := by omega
      rw [if_pos hlast, if_pos hlimit, hzero]
      simp [hlimit]
    · have hnext : ¬ r + 1 < limit := by omega
      have hbelow : ((2 * limit - r : ℕ) : ℤ) - 1 = (2 * limit - (r + 1) : ℕ) := by omega
      have hpos : ((2 * limit - (r + 1) : ℕ) : ℤ) ≠ 0 := by omega
      rw [if_neg hlast, if_neg hnext, hbelow]
      exact ⟨rfl, by rw [decide_eq_false hpos, decide_eq_false hnext]⟩

/-- The position and the direction after so many steps from zero. -/
theorem bounce_iterate (hlimit : 0 < limit) (k : ℕ) :
    (bounce limit)^[k] ⟨0, true⟩ = ⟨height limit k, rising limit k⟩ := by
  induction k with
  | zero =>
    simp [height, rising, hlimit]
  | succ k ih => rw [Function.iterate_succ_apply', ih, bounce_height hlimit]

/-- The position is the number of steps up less the number of steps down. -/
theorem height_balance (hlimit : 0 < limit) (k : ℕ) :
    (((List.range k).map (rising limit)).count true : ℤ) =
      height limit k + ((List.range k).map (rising limit)).count false := by
  induction k with
  | zero => simp [height, hlimit]
  | succ k ih =>
    have hstep := bounce_height hlimit k
    rw [List.range_succ, List.map_append, List.count_append, List.count_append]
    push_cast
    rw [ih]
    cases hrising : rising limit k with
    | true =>
      rw [hrising, bounce, if_pos rfl, Counter.mk.injEq] at hstep
      simp [hrising, ← hstep.1]
      ring
    | false =>
      rw [hrising, bounce, if_neg Bool.false_ne_true, Counter.mk.injEq] at hstep
      simp [hrising, ← hstep.1]

end LiveMediaExt.Bouncing
