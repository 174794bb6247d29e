import Mathlib

/-!
# Going round a list

A scheduler that serves the entries of a list in their order, again and again, has at any time
served some whole rounds and the beginning of another one. However early it stops, the numbers
of times that two entries were served differ by at most one, and no entry was served more often
than one before it.
-/
namespace LiveMediaExt.RoundRobin
variable {α : Type*}

/-- Some whole rounds. -/
def rounds (entries : List α) : ℕ → List α
  | 0 => []
  | n + 1 => rounds entries n ++ entries

/-- What was served when the scheduler stopped after `n` whole rounds, at the end of `begun`. -/
structure Stopped (entries : List α) (n : ℕ) (begun served : List α) : Prop where
  begins : begun <+: entries
  served_eq : served = rounds entries n ++ begun

/-- An entry is reached after those before it. -/
theorem Stopped.mem_begun {entries begun served : List α} {n : ℕ} {a b : α}
    {before : α → α → Prop} (h : Stopped entries n begun served)
    (hsorted : entries.Pairwise before) (hasymm : ∀ x y, before x y → ¬ before y x)
    (ha : a ∈ entries) (hab : before a b) (hb : b ∈ begun) : a ∈ begun := by
  obtain ⟨rest, hrest⟩ := h.begins
  rw [← hrest] at hsorted ha
  rcases List.mem_append.mp ha with hbegun | hlater
  · exact hbegun
  · have hba : before b a := (List.pairwise_append.mp hsorted).2.2 b hb a hlater
    exact absurd hab (hasymm b a hba)

/-- Nothing but the entries is served. -/
theorem Stopped.mem_entries {entries begun served : List α} {n : ℕ} {a : α}
    (h : Stopped entries n begun served) (ha : a ∈ served) : a ∈ entries := by
  have hrounds : ∀ n, a ∈ rounds entries n → a ∈ entries := by
    intro n
    induction n with
    | zero => simp [rounds]
    | succ n ih =>
      intro hmem
      rcases List.mem_append.mp hmem with hmem | hmem
      · exact ih hmem
      · exact hmem
  rw [h.served_eq] at ha
  rcases List.mem_append.mp ha with ha | ha
  · exact hrounds n ha
  · exact h.begins.subset ha

section Count
variable [BEq α] [LawfulBEq α] {entries begun served : List α} {n : ℕ} {a b : α}

theorem count_rounds (hnodup : entries.Nodup) (ha : a ∈ entries) (n : ℕ) :
    (rounds entries n).count a = n := by
  induction n with
  | zero => rfl
  | succ n ih =>
    rw [rounds, List.count_append, ih, List.count_eq_one_of_mem hnodup ha]

namespace Stopped

theorem count_eq (h : Stopped entries n begun served) (hnodup : entries.Nodup)
    (ha : a ∈ entries) : served.count a = n + begun.count a := by
  rw [h.served_eq, List.count_append, count_rounds hnodup ha]

/-- The begun round serves each entry at most once. -/
theorem begun_count_le (h : Stopped entries n begun served) (hnodup : entries.Nodup) :
    begun.count a ≤ 1 :=
  List.nodup_iff_count_le_one.mp (hnodup.sublist h.begins.sublist) a

theorem count_le (h : Stopped entries n begun served) (hnodup : entries.Nodup)
    (ha : a ∈ entries) : served.count a ≤ n + 1 := by
  rw [h.count_eq hnodup ha]
  have hle : begun.count a ≤ 1 := h.begun_count_le hnodup
  omega

/-- Any two entries were served almost equally often. -/
theorem count_le_succ (h : Stopped entries n begun served) (hnodup : entries.Nodup)
    (ha : a ∈ entries) (hb : b ∈ entries) : served.count a ≤ served.count b + 1 := by
  rw [h.count_eq hnodup ha, h.count_eq hnodup hb]
  have hle : begun.count a ≤ 1 := h.begun_count_le hnodup
  omega

/-- No entry was served more often than one before it. -/
theorem count_mono {before : α → α → Prop} (h : Stopped entries n begun served)
    (hnodup : entries.Nodup) (hsorted : entries.Pairwise before)
    (hasymm : ∀ x y, before x y → ¬ before y x)
    (ha : a ∈ entries) (hb : b ∈ entries) (hab : before a b) :
    served.count b ≤ served.count a := by
  rw [h.count_eq hnodup ha, h.count_eq hnodup hb]
  by_cases hbegun : b ∈ begun
  · have hpos : 0 < begun.count a :=
      List.count_pos_iff.mpr (h.mem_begun hsorted hasymm ha hab hbegun)
    have hle : begun.count b ≤ 1 := h.begun_count_le hnodup
    omega
  · rw [List.count_eq_zero.mpr hbegun]
    omega

end Stopped

end Count

end LiveMediaExt.RoundRobin
