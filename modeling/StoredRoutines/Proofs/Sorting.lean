import Mathlib.Data.List.Sort
import StoredRoutines.Sorting

/-!
# Sorted lists

Sorting puts the items of a list into the order it is given. Where no two items have one place in
the order, the result does not depend on the order in which they came.

## Main definitions

- `Orders` — a function that puts items into an order

## Main results

- `pairwise_sortBy`, `perm_sortBy` — a sorted list and its items
- `sortBy_eq_of_perm` — the order of the items before they are sorted makes no difference
-/

namespace StoredRoutines

variable {α : Type} {le : α → α → Bool}

/-- A function that puts items into an order: it compares any two of them, and what comes before
    a second item comes before all that the second one comes before. -/
structure Orders (le : α → α → Bool) : Prop where
  total : ∀ a b, le a b = true ∨ le b a = true
  trans : ∀ {a b c}, le a b = true → le b c = true → le a c = true

theorem insertBy_eq_orderedInsert (le : α → α → Bool) (a : α) (l : List α) :
    insertBy le a l = l.orderedInsert (fun a b => le a b = true) a := by
  induction l with
  | nil => rfl
  | cons b rest ih => rw [insertBy, List.orderedInsert_cons, ih]

theorem sortBy_eq_insertionSort (le : α → α → Bool) (l : List α) :
    sortBy le l = l.insertionSort fun a b => le a b = true := by
  induction l with
  | nil => rfl
  | cons a l ih =>
    rw [List.insertionSort_cons, ← ih, ← insertBy_eq_orderedInsert]
    rfl

theorem perm_sortBy (le : α → α → Bool) (l : List α) : (sortBy le l).Perm l := by
  rw [sortBy_eq_insertionSort]
  exact List.perm_insertionSort _ l

theorem pairwise_sortBy (h : Orders le) (l : List α) :
    (sortBy le l).Pairwise fun a b => le a b = true := by
  have : Std.Total fun a b => le a b = true := ⟨h.total⟩
  have : IsTrans α fun a b => le a b = true := ⟨fun _ _ _ => h.trans⟩
  rw [sortBy_eq_insertionSort]
  exact List.pairwise_insertionSort _ l

/-- Items of which no two have one place in the order are sorted in one way. -/
theorem sortBy_eq_of_perm (h : Orders le) {l l' : List α} (hperm : l.Perm l')
    (hplace : ∀ a ∈ l, ∀ b ∈ l, le a b = true → le b a = true → a = b) :
    sortBy le l = sortBy le l' := by
  have hsame : (sortBy le l).Perm (sortBy le l') :=
    (perm_sortBy le l).trans (hperm.trans (perm_sortBy le l').symm)
  refine hsame.eq_of_pairwise ?_ (pairwise_sortBy h l) (pairwise_sortBy h l')
  intro a b ha hb
  exact hplace a (mem_sortBy.1 ha) b (hperm.mem_iff.2 (mem_sortBy.1 hb))

end StoredRoutines
