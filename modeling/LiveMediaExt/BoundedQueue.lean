import Mathlib

/-!
# A bounded first-in first-out queue

Pushing a range enqueues as much of its front as fits and returns the rest; popping takes the
oldest item. Items are neither lost nor reordered: whatever left the queue, is in it or was
returned is what was offered to it.
-/
namespace LiveMediaExt.Queues

structure BoundedQueue (α : Type*) (capacity : ℕ) where
  items : List α
  length_le : items.length ≤ capacity
  deriving DecidableEq

namespace BoundedQueue
variable {α : Type*} {capacity : ℕ}

def empty : BoundedQueue α capacity := ⟨[], Nat.zero_le _⟩

/-- The queue after the longest prefix that fits, and the items that do not fit. -/
def push (q : BoundedQueue α capacity) (xs : List α) : BoundedQueue α capacity × List α :=
  let room := capacity - q.items.length
  (⟨q.items ++ xs.take room, by
    have hle := q.length_le
    rw [List.length_append, List.length_take]
    omega⟩, xs.drop room)

def pop (q : BoundedQueue α capacity) : Option α × BoundedQueue α capacity :=
  (q.items.head?, ⟨q.items.tail, by
    have hle := q.length_le
    rw [List.length_tail]
    omega⟩)

theorem push_conserves (q : BoundedQueue α capacity) (xs : List α) :
    (q.push xs).1.items ++ (q.push xs).2 = q.items ++ xs := by
  unfold push
  dsimp only
  rw [List.append_assoc, List.take_append_drop]

theorem push_fits_iff (q : BoundedQueue α capacity) (xs : List α) :
    (q.push xs).2 = [] ↔ q.items.length + xs.length ≤ capacity := by
  have hle := q.length_le
  unfold push
  rw [List.drop_eq_nil_iff]
  omega

/-- Everything offered is enqueued just when nothing is returned. -/
theorem push_items_iff (q : BoundedQueue α capacity) (xs : List α) :
    (q.push xs).1.items = q.items ++ xs ↔ (q.push xs).2 = [] := by
  have h := push_conserves q xs
  constructor
  · intro heq
    rw [heq] at h
    exact List.append_right_eq_self.mp h
  · intro hnil
    rw [← h, hnil, List.append_nil]

theorem pop_conserves (q : BoundedQueue α capacity) :
    q.pop.1.toList ++ q.pop.2.items = q.items := by
  obtain ⟨items, hle⟩ := q
  cases items with
  | nil => rfl
  | cons first rest => rfl

end BoundedQueue

end LiveMediaExt.Queues
