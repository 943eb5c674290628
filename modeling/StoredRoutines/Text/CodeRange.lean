/-!
# Ranges of code points

A property of characters is given as an ascending list of disjoint, inclusive ranges.

## Main definitions

- `inRanges` — membership of a code point in such a list
-/

namespace StoredRoutines.Text

/-- Membership in an ascending list of ranges. The search ends at the first range that lies
    above the code point. -/
def inRanges (n : Nat) : List (Nat × Nat) → Bool
  | [] => false
  | (lo, hi) :: rest => if n < lo then false else n ≤ hi || inRanges n rest

/-- A code point that is found lies in one of the ranges. -/
theorem exists_of_inRanges {n : Nat} {ranges : List (Nat × Nat)} (h : inRanges n ranges = true) :
    ∃ r ∈ ranges, r.1 ≤ n ∧ n ≤ r.2 := by
  induction ranges with
  | nil => simp [inRanges] at h
  | cons r rest ih =>
    obtain ⟨lo, hi⟩ := r
    simp only [inRanges] at h
    split at h
    · simp at h
    · next hlo =>
      rcases Bool.or_eq_true_iff.1 h with hhi | hrest
      · exact ⟨(lo, hi), by simp, by omega, by simpa using hhi⟩
      · obtain ⟨r', hr', bounds⟩ := ih hrest
        exact ⟨r', List.mem_cons_of_mem _ hr', bounds⟩

end StoredRoutines.Text
