import Mathlib

/-!
# The ends of a sorted list, and its range between two bounds

The first element of a sorted list is the least one, and the last element the greatest.

Where a predicate never fails again once it held, the elements that meet it are those from the
first one on; where it never holds again once it failed, they are those of the longest beginning
that meets it. Between two such predicates lies a range of indices.
-/
namespace LiveMediaExt.SortedRanges
variable {α : Type*} {l : List α} {p q : α → Bool} {i : ℕ} {a : α}

/-- A predicate that keeps holding holds from the first index on. -/
theorem findIdx_le_iff (hp : l.Pairwise fun a b => p a = true → p b = true)
    (ha : l[i]? = some a) : l.findIdx p ≤ i ↔ p a = true := by
  induction l generalizing i with
  | nil => simp at ha
  | cons b l ih =>
    obtain ⟨hfirst, hrest⟩ := List.pairwise_cons.mp hp
    cases i with
    | zero =>
      obtain rfl : b = a := by simpa using ha
      cases hb : p b with
      | true => simp [List.findIdx_cons, hb]
      | false => simp [List.findIdx_cons, hb]
    | succ i =>
      have ha' : l[i]? = some a := by simpa using ha
      cases hb : p b with
      | true =>
        have hpa : p a = true := hfirst a (List.mem_of_getElem? ha') hb
        simp [List.findIdx_cons, hb, hpa]
      | false =>
        rw [← ih hrest ha']
        simp [List.findIdx_cons, hb]

/-- A predicate that keeps failing holds below the length of the beginning that meets it. -/
theorem lt_takeWhile_iff (hq : l.Pairwise fun a b => q b = true → q a = true)
    (ha : l[i]? = some a) : i < (l.takeWhile q).length ↔ q a = true := by
  induction l generalizing i with
  | nil => simp at ha
  | cons b l ih =>
    obtain ⟨hfirst, hrest⟩ := List.pairwise_cons.mp hq
    cases i with
    | zero =>
      obtain rfl : b = a := by simpa using ha
      cases hb : q b with
      | true => simp [hb]
      | false => simp [hb]
    | succ i =>
      have ha' : l[i]? = some a := by simpa using ha
      cases hb : q b with
      | true =>
        rw [← ih hrest ha']
        simp [hb]
      | false =>
        have hqa : q a = false := by
          rw [← Bool.not_eq_true]
          intro hqa
          rw [hfirst a (List.mem_of_getElem? ha') hqa] at hb
          cases hb
        simp [hb, hqa]

section Ends
variable {r : α → α → Prop} [Std.Refl r] [Std.Antisymm r]

/-- The first element of a sorted list is the least one. -/
theorem head_eq_iff (hsorted : l.Pairwise r) (hne : l ≠ []) :
    l.head hne = a ↔ a ∈ l ∧ ∀ b ∈ l, r a b := by
  constructor
  · rintro rfl
    exact ⟨List.head_mem hne, fun b hb => hsorted.rel_head hb⟩
  · rintro ⟨ha, hleast⟩
    exact antisymm (hsorted.rel_head ha) (hleast _ (List.head_mem hne))

/-- The last element of a sorted list is the greatest one. -/
theorem getLast_eq_iff (hsorted : l.Pairwise r) (hne : l ≠ []) :
    l.getLast hne = a ↔ a ∈ l ∧ ∀ b ∈ l, r b a := by
  constructor
  · rintro rfl
    exact ⟨List.getLast_mem hne, fun b hb => hsorted.rel_getLast hb⟩
  · rintro ⟨ha, hgreatest⟩
    exact antisymm (hgreatest _ (List.getLast_mem hne)) (hsorted.rel_getLast ha)

end Ends

section Range
variable (hp : l.Pairwise fun a b => p a = true → p b = true)
  (hq : l.Pairwise fun a b => q b = true → q a = true)
include hp hq

/-- The indices of the range are those of the elements that meet both predicates. -/
theorem range_iff :
    (l.findIdx p ≤ i ∧ i < (l.takeWhile q).length) ↔
      ∃ a, l[i]? = some a ∧ p a = true ∧ q a = true := by
  constructor
  · rintro ⟨hfirst, hlast⟩
    have hi : i < l.length := hlast.trans_le (List.takeWhile_prefix q).length_le
    have ha : l[i]? = some l[i] := List.getElem?_eq_getElem hi
    exact ⟨l[i], ha, (findIdx_le_iff hp ha).mp hfirst, (lt_takeWhile_iff hq ha).mp hlast⟩
  · rintro ⟨a, ha, hpa, hqa⟩
    exact ⟨(findIdx_le_iff hp ha).mpr hpa, (lt_takeWhile_iff hq ha).mpr hqa⟩

/-- The range is empty just when no element meets both predicates. -/
theorem range_nonempty_iff :
    l.findIdx p < (l.takeWhile q).length ↔ ∃ a ∈ l, p a = true ∧ q a = true := by
  constructor
  · intro hlt
    obtain ⟨a, ha, hpa, hqa⟩ := (range_iff hp hq).mp ⟨le_rfl, hlt⟩
    exact ⟨a, List.mem_of_getElem? ha, hpa, hqa⟩
  · rintro ⟨a, hmem, hpa, hqa⟩
    obtain ⟨i, ha⟩ := List.getElem?_of_mem hmem
    obtain ⟨hfirst, hlast⟩ := (range_iff hp hq).mpr ⟨a, ha, hpa, hqa⟩
    exact hfirst.trans_lt hlast

end Range

end LiveMediaExt.SortedRanges
