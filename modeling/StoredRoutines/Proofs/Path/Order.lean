import Mathlib.Tactic.MkIffOfInductiveProp
import StoredRoutines.Path
import StoredRoutines.Proofs.Sorting

/-!
# The order of paths

Paths are compared part by part. The first parts that differ decide, and a path comes before all
that lie below it.

## Main definitions

- `PathPart.Before`, `Path.Before` — one part, and one path, before another

## Main results

- `Path.precedes_iff` — the comparison of paths says which comes first
- `Path.orders_precedes` — it puts any list of paths into an order
-/

namespace StoredRoutines

namespace PathPart

/-- The root comes before a full stop, this one before two of them, and all three before names, of
    which the smaller comes first. -/
@[mk_iff]
inductive Before : PathPart → PathPart → Prop
  | rank {a b : PathPart} (h : a.rank < b.rank) : Before a b
  | name {s t : String} (h : s < t) : Before (.name s) (.name t)

variable {a b c : PathPart}

theorem Before.trans (h : a.Before b) (h' : b.Before c) : a.Before c := by
  cases h with
  | rank h =>
    cases h' with
    | rank h' => exact .rank (h.trans h')
    | name _ => exact .rank h
  | name h =>
    cases h' with
    | rank h' => exact .rank h'
    | name h' => exact .name (String.lt_trans h h')

theorem Before.ne (h : a.Before b) : a ≠ b := by
  rintro rfl
  cases h with
  | rank h => exact Nat.lt_irrefl _ h
  | name h => exact String.lt_irrefl _ h

theorem le_iff : a.le b = true ↔ a = b ∨ a.Before b := by
  have hname : ∀ {s t : String}, s ≤ t ↔ s = t ∨ s < t := by
    intro s t
    constructor
    · intro hle
      by_cases hge : t ≤ s
      · exact .inl (String.le_antisymm hle hge)
      · exact .inr (String.not_le.1 hge)
    · rintro (rfl | hlt)
      · exact String.le_refl s
      · exact String.not_lt.1 (String.lt_asymm hlt)
  -- parts of one sort are equal unless they are names
  cases a <;> cases b <;> simp [le, rank, before_iff, hname]

theorem le_total (a b : PathPart) : a.le b = true ∨ b.le a = true := by
  cases a <;> cases b <;> simp [le, rank, String.le_total]

end PathPart

namespace Path

/-- A path comes before another one if its parts do so as words do in a dictionary. -/
def Before (p q : Path) : Prop :=
  List.Lex PathPart.Before p.parts q.parts

variable {as bs cs : List PathPart} {p q : Path}

/-- The test decides the lexicographic order of lists of parts. -/
theorem partsLe_iff : partsLe as bs = true ↔ as = bs ∨ List.Lex PathPart.Before as bs := by
  induction as generalizing bs with
  | nil =>
    cases bs with
    | nil => simp [partsLe]
    | cons b bs => simp [partsLe]
  | cons a as ih =>
    cases bs with
    | nil =>
      simp only [partsLe, reduceCtorEq, false_or, Bool.false_eq_true, false_iff]
      nofun
    | cons b bs =>
      rw [partsLe, List.cons.injEq]
      split
      next heq =>
        -- equal first parts leave the comparison to the rest
        subst heq
        rw [ih, eq_self, true_and]
        refine or_congr_right ⟨.cons, fun h => ?_⟩
        cases h with
        | cons h => exact h
        | rel h => exact absurd rfl h.ne
      next hne =>
        -- different first parts decide it
        rw [PathPart.le_iff, or_iff_right hne, or_iff_right fun h => hne h.1]
        refine ⟨.rel, fun h => ?_⟩
        cases h with
        | cons _ => exact absurd rfl hne
        | rel h => exact h

theorem partsLe_total (as bs : List PathPart) : partsLe as bs = true ∨ partsLe bs as = true := by
  induction as generalizing bs with
  | nil => exact .inl rfl
  | cons a as ih =>
    cases bs with
    | nil => exact .inr rfl
    | cons b bs =>
      rw [partsLe, partsLe]
      by_cases h : a = b
      · rw [if_pos h, if_pos h.symm]
        exact ih bs
      · rw [if_neg h, if_neg (Ne.symm h)]
        exact a.le_total b

theorem partsLe_trans (h : partsLe as bs = true) (h' : partsLe bs cs = true) :
    partsLe as cs = true := by
  rw [partsLe_iff] at h h' ⊢
  rcases h with rfl | h
  · exact h'
  · rcases h' with rfl | h'
    · exact .inr h
    · exact .inr (List.lex_trans PathPart.Before.trans h h')

/-- A path precedes another one if it comes before it, or has the same parts. -/
theorem precedes_iff : p.precedes q = true ↔ p.parts = q.parts ∨ p.Before q :=
  partsLe_iff

theorem orders_precedes : Orders precedes where
  total p q := partsLe_total p.parts q.parts
  trans h h' := partsLe_trans h h'

theorem parts_eq_of_precedes (h : p.precedes q = true) (h' : q.precedes p = true) :
    p.parts = q.parts := by
  rcases precedes_iff.1 h with heq | hbefore
  · exact heq
  · rcases precedes_iff.1 h' with heq | hafter
    · exact heq.symm
    · have hcycle := List.lex_trans (r := PathPart.Before) .trans hbefore hafter
      exact absurd hcycle (List.lex_irrefl (fun _ hpart => hpart.ne rfl) _)

end Path

end StoredRoutines
