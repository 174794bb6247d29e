import Mathlib

/-!
# Finite maps of finite maps

A map of maps stands for one partial function on pairs of keys. Insertion into the inner map is
an update of that function; erasing an outer key forgets all the pairs below it.
-/
namespace LiveMediaExt.NestedMap
open Std

variable {κ ι α : Type*} [Ord κ] [TransOrd κ] [LawfulEqOrd κ] [DecidableEq κ]
  [Ord ι] [TransOrd ι] [LawfulEqOrd ι] [DecidableEq ι]

/-- The value stored under a pair of keys. -/
def lookup (m : ExtTreeMap κ (ExtTreeMap ι α)) (p : κ × ι) : Option α :=
  m[p.1]?.bind fun inner => inner[p.2]?

omit [LawfulEqOrd κ] [DecidableEq κ] [LawfulEqOrd ι] [DecidableEq ι] in
theorem lookup_empty : lookup (∅ : ExtTreeMap κ (ExtTreeMap ι α)) = fun _ => none := by
  funext p
  simp [lookup]

/-- Insertion below an outer key, whether or not the key was there before. -/
theorem lookup_insert {m : ExtTreeMap κ (ExtTreeMap ι α)} {k : κ} {inner : ExtTreeMap ι α}
    (h : ∀ j, inner[j]? = lookup m (k, j)) (i : ι) (a : α) :
    lookup (m.insert k (inner.insert i a)) = Function.update (lookup m) (k, i) (some a) := by
  funext ⟨k', j⟩
  by_cases hk : k = k'
  · subst hk
    have hinner : lookup (m.insert k (inner.insert i a)) (k, j) = (inner.insert i a)[j]? := by
      simp [lookup]
    rw [hinner]
    by_cases hj : i = j
    · subst hj
      simp
    · have hne : (k, j) ≠ (k, i) := by simp [Ne.symm hj]
      rw [Function.update_of_ne hne, ← h j, ExtTreeMap.getElem?_insert]
      simp [hj]
  · have hne : (k', j) ≠ (k, i) := by simp [Ne.symm hk]
    rw [Function.update_of_ne hne]
    simp [lookup, ExtTreeMap.getElem?_insert, hk]

omit [LawfulEqOrd ι] [DecidableEq ι] in
theorem lookup_erase (m : ExtTreeMap κ (ExtTreeMap ι α)) (k : κ) (p : κ × ι) :
    lookup (m.erase k) p = if p.1 = k then none else lookup m p := by
  by_cases hk : p.1 = k
  · simp [lookup, hk]
  · simp [lookup, ExtTreeMap.getElem?_erase, hk, Ne.symm hk]

omit [LawfulEqOrd ι] in
/-- Erasing an outer key deletes just one pair exactly when there is no other below it. -/
theorem lookup_erase_eq_iff (m : ExtTreeMap κ (ExtTreeMap ι α)) (k : κ) (i : ι) :
    lookup (m.erase k) = Function.update (lookup m) (k, i) none ↔
      ∀ j, j ≠ i → lookup m (k, j) = none := by
  constructor
  · intro h j hj
    have hne : (k, j) ≠ (k, i) := by simp [hj]
    have hpair := congrFun h (k, j)
    rw [lookup_erase, if_pos rfl, Function.update_of_ne hne] at hpair
    exact hpair.symm
  · intro h
    funext ⟨k', j⟩
    rw [lookup_erase]
    by_cases hp : (k', j) = (k, i)
    · cases hp
      simp
    · rw [Function.update_of_ne hp]
      by_cases hk : k' = k
      · subst hk
        have hj : j ≠ i := fun hji => hp (by rw [hji])
        rw [if_pos rfl, h j hj]
      · rw [if_neg hk]

end LiveMediaExt.NestedMap
