/-!
# Pieces of a text

Cutting a text at a separator, and looking for one text inside another.

## Main definitions

- `splitOn` — the pieces between the occurrences of a separator
- `hasSubtext` — whether a text occurs in another
- `lines` — the lines of a string, ends of line left out

## Design notes

Texts are worked on as lists of characters, so that every function here is a plain recursion;
`String` is the type of the values that go in and come out.
-/

namespace StoredRoutines.Text

/-- The pieces of a text between the occurrences of a separator. There is one piece more than
    there are separators. -/
def splitOn (sep : Char) : List Char → List (List Char)
  | [] => [[]]
  | c :: rest =>
    if c = sep then [] :: splitOn sep rest
    else
      match splitOn sep rest with
      | [] => [[c]]
      | piece :: pieces => (c :: piece) :: pieces

/-- Whether `pattern` occurs somewhere in a text. -/
def hasSubtext (pattern : List Char) : List Char → Bool
  | [] => pattern.isEmpty
  | c :: rest => pattern.isPrefixOf (c :: rest) || hasSubtext pattern rest

/-- The lines of a string. A string without a line feed is one line. -/
def lines (text : String) : List String :=
  (splitOn '\n' text.toList).map String.ofList

theorem splitOn_ne_nil (sep : Char) (s : List Char) : splitOn sep s ≠ [] := by
  cases s with
  | nil => simp [splitOn]
  | cons c rest =>
    simp only [splitOn]
    split
    · simp
    · split <;> simp

theorem splitOn_cons_of_ne {sep c : Char} (hc : c ≠ sep) {s piece : List Char}
    {pieces : List (List Char)} (h : splitOn sep s = piece :: pieces) :
    splitOn sep (c :: s) = (c :: piece) :: pieces := by
  rw [splitOn, if_neg hc, h]

/-- A separator ends a piece. -/
theorem splitOn_append_cons {sep : Char} {pre : List Char} (h : sep ∉ pre) (s : List Char) :
    splitOn sep (pre ++ sep :: s) = pre :: splitOn sep s := by
  induction pre with
  | nil => rw [List.nil_append, splitOn, if_pos rfl]
  | cons c pre ih =>
    rw [List.mem_cons, not_or] at h
    rw [List.cons_append, splitOn, if_neg (Ne.symm h.1), ih h.2]

theorem length_splitOn (sep : Char) (s : List Char) :
    (splitOn sep s).length = s.count sep + 1 := by
  induction s with
  | nil => rfl
  | cons c rest ih =>
    obtain ⟨piece, pieces, hpieces⟩ := List.exists_cons_of_ne_nil (splitOn_ne_nil sep rest)
    by_cases hc : c = sep
    · rw [splitOn, if_pos hc, List.length_cons, ih, hc, List.count_cons_self]
    · rw [splitOn_cons_of_ne hc hpieces, List.length_cons, List.count_cons_of_ne hc, ← ih, hpieces,
        List.length_cons]

theorem mem_of_mem_splitOn {sep : Char} {s piece : List Char} (h : piece ∈ splitOn sep s)
    {c : Char}
    (hc : c ∈ piece) : c ∈ s := by
  induction s generalizing piece with
  | nil =>
    obtain rfl : piece = [] := by simpa [splitOn] using h
    exact hc
  | cons d s ih =>
    obtain ⟨first, pieces, hpieces⟩ := List.exists_cons_of_ne_nil (splitOn_ne_nil sep s)
    by_cases hd : d = sep
    · rw [splitOn, if_pos hd] at h
      rcases List.mem_cons.1 h with rfl | h
      · cases hc
      · exact List.mem_cons_of_mem _ (ih h hc)
    · rw [splitOn_cons_of_ne hd hpieces] at h
      rcases List.mem_cons.1 h with rfl | h
      · rcases List.mem_cons.1 hc with rfl | hc
        · exact List.mem_cons_self
        · exact List.mem_cons_of_mem _ (ih (hpieces ▸ List.mem_cons_self) hc)
      · exact List.mem_cons_of_mem _ (ih (hpieces ▸ List.mem_cons_of_mem _ h) hc)

/-- No piece holds the separator. -/
theorem sep_notMem_of_mem_splitOn {sep : Char} {s piece : List Char}
    (h : piece ∈ splitOn sep s) : sep ∉ piece := by
  induction s generalizing piece with
  | nil => simp only [splitOn, List.mem_singleton] at h; simp [h]
  | cons c rest ih =>
    simp only [splitOn] at h
    split at h
    · rcases List.mem_cons.1 h with rfl | h
      · simp
      · exact ih h
    · next hc =>
      split at h
      · simp only [List.mem_singleton] at h
        simpa [h] using Ne.symm hc
      · next p ps hsplit =>
        rcases List.mem_cons.1 h with rfl | h
        · have hp : sep ∉ p := ih (by simp [hsplit])
          simpa [hp] using Ne.symm hc
        · exact ih (by simp [hsplit, h])

/-- Joining the pieces with the separator gives back the text. -/
theorem intercalate_splitOn (sep : Char) (s : List Char) :
    List.intercalate [sep] (splitOn sep s) = s := by
  induction s with
  | nil => simp [splitOn]
  | cons c rest ih =>
    simp only [splitOn]
    have hne := splitOn_ne_nil sep rest
    split
    · next hc =>
      cases hs : splitOn sep rest with
      | nil => exact absurd hs hne
      | cons p ps =>
        rw [hs] at ih
        simp [List.intercalate, List.intersperse, hc] at ih ⊢
        exact ih
    · cases hs : splitOn sep rest with
      | nil => exact absurd hs hne
      | cons p ps =>
        rw [hs] at ih
        cases ps <;> simpa [List.intercalate, List.intersperse] using ih

/-- A text occurs in another exactly if it is a part of it. -/
theorem hasSubtext_iff {pattern s : List Char} : hasSubtext pattern s = true ↔ pattern <:+: s := by
  induction s with
  | nil => simp [hasSubtext]
  | cons c rest ih =>
    simp [hasSubtext, List.infix_cons_iff, ih]

end StoredRoutines.Text
