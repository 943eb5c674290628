/-!
# Sorting

Sorting a list by an order that is given as a function.

## Main definitions

- `insertBy` — an item in its place of a sorted list
- `sortBy` — a sorted list of the items of a list; items that are equal keep their order
-/

namespace StoredRoutines

variable {α β : Type}

/-- A list with an item in front of the first one that it is not above. -/
def insertBy (le : α → α → Bool) (a : α) : List α → List α
  | [] => [a]
  | b :: rest => if le a b then a :: b :: rest else b :: insertBy le a rest

/-- The items of a list in ascending order. -/
def sortBy (le : α → α → Bool) (l : List α) : List α :=
  l.foldr (insertBy le) []

theorem mem_insertBy {le : α → α → Bool} {a x : α} {l : List α} :
    x ∈ insertBy le a l ↔ x = a ∨ x ∈ l := by
  induction l with
  | nil => simp [insertBy]
  | cons b rest ih =>
    rw [insertBy]
    split
    · simp
    · rw [List.mem_cons, ih, List.mem_cons, or_left_comm]

/-- Sorting neither adds items nor loses any. -/
theorem mem_sortBy {le : α → α → Bool} {x : α} {l : List α} : x ∈ sortBy le l ↔ x ∈ l := by
  induction l with
  | nil => rfl
  | cons a l ih =>
    rw [sortBy, List.foldr_cons, mem_insertBy, List.mem_cons]
    exact or_congr_right ih

theorem map_insertBy {le : α → α → Bool} {le' : β → β → Bool} {f : α → β}
    (h : ∀ a b, le a b = le' (f a) (f b)) (a : α) (l : List α) :
    (insertBy le a l).map f = insertBy le' (f a) (l.map f) := by
  induction l with
  | nil => rfl
  | cons b rest ih =>
    rw [insertBy, List.map_cons, insertBy, h]
    split
    · rfl
    · rw [List.map_cons, ih]

/-- The order of the items depends only on what they are compared by. -/
theorem map_sortBy {le : α → α → Bool} {le' : β → β → Bool} {f : α → β}
    (h : ∀ a b, le a b = le' (f a) (f b)) (l : List α) :
    (sortBy le l).map f = sortBy le' (l.map f) := by
  induction l with
  | nil => rfl
  | cons a l ih =>
    rw [sortBy, List.foldr_cons, map_insertBy h, List.map_cons, sortBy, List.foldr_cons]
    exact congrArg _ ih

end StoredRoutines
