import StoredRoutines.Proofs.Text.Words
import StoredRoutines.Text.Split

/-!
# Trimmed texts and pieces of texts

White space around a text makes no difference once it is trimmed, also if the text is cut first. A
text is its lines with a separator behind each of them, and an unfinished line.

## Main definitions

- `Padded` — a name, and a text that holds it with white space around it
- `joinedBy` — pieces with a separator behind each of them

## Main results

- `trim_trim`, `trim_blank_append`, `trim_append_blank` — white space around a text
- `map_trim_splitOn_trim` — the pieces of a trimmed text
- `exists_joinedBy` — every text is made of such pieces and a last one
- `splitOn_eq` — cutting a text is the library's splitting of lists
-/

namespace StoredRoutines.Text

variable {s t name : List Char}

theorem trim_trim (s : List Char) : trim (trim s) = trim s := by
  rw [trim_eq_self_iff]
  constructor
  · intro c hc
    obtain ⟨rest, hrest⟩ := trimEnd_isPrefix (trimStart s)
    apply head_trimStart s
    rw [← hrest]
    exact List.mem_head?_append_of_mem_head? hc
  · intro c hc
    rw [trim, trimEnd, List.getLast?_reverse] at hc
    exact head_trimStart _ c hc

theorem exists_trimEnd (s : List Char) :
    ∃ tail, tail.all isBlank = true ∧ s = trimEnd s ++ tail := by
  obtain ⟨lead, hlead, hs⟩ := exists_trimStart s.reverse
  refine ⟨lead.reverse, by rwa [List.all_reverse], ?_⟩
  calc s = s.reverse.reverse := s.reverse_reverse.symm
    _ = (lead ++ trimStart s.reverse).reverse := congrArg _ hs
    _ = trimEnd s ++ lead.reverse := List.reverse_append

theorem trim_blank_append (h : s.all isBlank = true) (t : List Char) : trim (s ++ t) = trim t := by
  rw [trim, trimStart, List.dropWhile_append_of_pos (List.all_eq_true.1 h), trim, trimStart]

theorem trimEnd_append_blank (s : List Char) (h : t.all isBlank = true) :
    trimEnd (s ++ t) = trimEnd s := by
  have hreverse : ∀ c ∈ t.reverse, isBlank c = true := by
    intro c hc
    exact List.all_eq_true.1 h c (List.mem_reverse.1 hc)
  rw [trimEnd, List.reverse_append, List.dropWhile_append_of_pos hreverse, trimEnd]

theorem trim_append_blank (s : List Char) (h : t.all isBlank = true) : trim (s ++ t) = trim s := by
  rw [trim, trimStart, List.dropWhile_append]
  split
  next hempty =>
    rw [List.dropWhile_eq_nil_iff.2 (List.all_eq_true.1 h), trim, trimStart,
      List.isEmpty_iff.1 hempty]
  next => rw [trimEnd_append_blank _ h, trim, trimStart]

/-- A name that has no white space at its ends, and a text that holds it with nothing but white
    space around it. -/
inductive Padded : List Char → List Char → Prop
  | around {lead name tail : List Char} (hlead : lead.all isBlank = true)
      (hname : trim name = name) (htail : tail.all isBlank = true) :
      Padded name (lead ++ name ++ tail)

theorem padded_trim (s : List Char) : Padded (trim s) s := by
  obtain ⟨lead, hlead, hs⟩ := exists_trimStart s
  obtain ⟨tail, htail, hrest⟩ := exists_trimEnd (trimStart s)
  have hpadded : Padded (trim s) (lead ++ trim s ++ tail) := .around hlead (trim_trim s) htail
  rwa [List.append_assoc, trim, ← hrest, ← hs] at hpadded

theorem padded_iff : Padded name s ↔ trim s = name := by
  constructor
  · rintro ⟨hlead, hname, htail⟩
    rw [trim_append_blank _ htail, trim_blank_append hlead, hname]
  · rintro rfl
    exact padded_trim s

theorem trim_eq_self_of_solid (h : ∀ c ∈ s, isBlank c = false) : trim s = s := by
  rw [trim_eq_self_iff]
  exact ⟨fun c hc => h c (List.mem_of_mem_head? hc),
    fun c hc => h c (List.mem_of_mem_getLast? hc)⟩

/-- White space in front of a text that ends with something else. -/
theorem trim_append_solid (s : List Char) (hne : t ≠ []) (ht : ∀ c ∈ t, isBlank c = false) :
    trim (s ++ t) = trimStart s ++ t := by
  have hstart : trimStart (s ++ t) = trimStart s ++ t := by
    rw [trimStart, List.dropWhile_append]
    split
    next hempty =>
      rw [trimStart, List.isEmpty_iff.1 hempty]
      exact trimStart_eq_self fun c hc => ht c (List.mem_of_mem_head? hc)
    next => rfl
  have hend : ∀ c ∈ (trimStart s ++ t).reverse.head?, isBlank c = false := by
    intro c hc
    rw [List.head?_reverse, List.getLast?_append_of_ne_nil _ hne] at hc
    exact ht c (List.mem_of_mem_getLast? hc)
  rw [trim, hstart, trimEnd]
  change (trimStart (trimStart s ++ t).reverse).reverse = _
  rw [trimStart_eq_self hend, List.reverse_reverse]

/-! ### Pieces -/

variable {sep : Char} {pieces : List (List Char)}

/-- Pieces with a separator behind each of them. -/
def joinedBy (sep : Char) (pieces : List (List Char)) : List Char :=
  pieces.flatMap (· ++ [sep])

theorem intercalate_cons (sep : Char) (piece : List Char) (pieces : List (List Char)) :
    List.intercalate [sep] (piece :: pieces) = piece ++ pieces.flatMap (sep :: ·) := by
  induction pieces generalizing piece with
  | nil => rw [List.intercalate_singleton, List.flatMap_nil, List.append_nil]
  | cons next rest ih =>
    rw [List.intercalate_cons_cons, ih, List.flatMap_cons, List.append_assoc, List.singleton_append,
      List.cons_append]

/-- Pieces that are joined first may as well be joined with the others. -/
theorem intercalate_intercalate (sep : Char) (piece : List Char) (pieces more : List (List Char)) :
    List.intercalate [sep] (List.intercalate [sep] (piece :: pieces) :: more) =
      List.intercalate [sep] (piece :: pieces ++ more) := by
  rw [List.cons_append, intercalate_cons, intercalate_cons, intercalate_cons, List.flatMap_append,
    List.append_assoc]

theorem head_of_intercalate (h : ∀ piece ∈ pieces, piece ≠ []) {c : Char}
    (hc : c ∈ (List.intercalate [sep] pieces).head?) : ∃ piece ∈ pieces, c ∈ piece.head? := by
  cases pieces with
  | nil => cases hc
  | cons piece rest =>
    refine ⟨piece, List.mem_cons_self, ?_⟩
    cases rest with
    | nil => simpa using hc
    | cons next rest =>
      rwa [List.intercalate_cons_cons, List.append_assoc,
        List.head?_append_of_ne_nil _ (h piece List.mem_cons_self)] at hc

theorem getLast_of_intercalate (h : ∀ piece ∈ pieces, piece ≠ []) {c : Char}
    (hc : c ∈ (List.intercalate [sep] pieces).getLast?) :
    ∃ piece ∈ pieces, c ∈ piece.getLast? := by
  induction pieces with
  | nil => cases hc
  | cons piece rest ih =>
    cases rest with
    | nil => exact ⟨piece, List.mem_cons_self, by simpa using hc⟩
    | cons next rest =>
      have hrest : ∀ q ∈ next :: rest, q ≠ [] := fun q hq => h q (List.mem_cons_of_mem _ hq)
      have hne : List.intercalate [sep] (next :: rest) ≠ [] := by
        obtain ⟨d, tail, rfl⟩ := List.exists_cons_of_ne_nil (hrest next List.mem_cons_self)
        cases rest <;> simp
      rw [List.intercalate_cons_cons, List.getLast?_append_of_ne_nil _ hne] at hc
      obtain ⟨q, hq, hlast⟩ := ih hrest hc
      exact ⟨q, List.mem_cons_of_mem _ hq, hlast⟩

theorem mem_intercalate {c : Char} (h : c ∈ List.intercalate [sep] pieces) :
    c = sep ∨ ∃ piece ∈ pieces, c ∈ piece := by
  induction pieces with
  | nil => cases h
  | cons piece rest ih =>
    cases rest with
    | nil => exact .inr ⟨piece, List.mem_cons_self, by simpa using h⟩
    | cons next rest =>
      rw [List.intercalate_cons_cons, List.mem_append, List.mem_append, List.mem_singleton] at h
      rcases h with (h | h) | h
      · exact .inr ⟨piece, List.mem_cons_self, h⟩
      · exact .inl h
      · rcases ih h with h | ⟨q, hq, h⟩
        · exact .inl h
        · exact .inr ⟨q, List.mem_cons_of_mem _ hq, h⟩

/-- Cutting at a character is what the library calls splitting on it. -/
theorem splitOn_eq (sep : Char) (s : List Char) : splitOn sep s = s.splitOn sep := by
  induction s with
  | nil => rfl
  | cons c rest ih =>
    have hcons : (c :: rest).splitOn sep =
        if (c == sep) = true then [] :: rest.splitOn sep
        else List.modifyHead (List.cons c) (rest.splitOn sep) :=
      List.splitOnP_cons_eq_if_modifyHead c rest
    rw [hcons, splitOn]
    by_cases hc : c = sep
    · rw [if_pos hc, if_pos (by simpa using hc), ih]
    · rw [if_neg hc, if_neg (by simpa using hc)]
      have hne := splitOn_ne_nil sep rest
      split
      next hnil => exact absurd hnil hne
      next piece pieces hpieces => rw [← ih, hpieces, List.modifyHead_cons]

theorem splitOn_of_notMem (h : sep ∉ s) : splitOn sep s = [s] := by
  have hall : ∀ c ∈ s, ¬ (c == sep) = true := by
    intro c hc heq
    exact h (beq_iff_eq.1 heq ▸ hc)
  rw [splitOn_eq]
  exact List.splitOnP_eq_singleton (by simpa using hall)

/-- Joined pieces are split again. -/
theorem splitOn_joinedBy_append (h : ∀ piece ∈ pieces, sep ∉ piece) (t : List Char) :
    splitOn sep (joinedBy sep pieces ++ t) = pieces ++ splitOn sep t := by
  induction pieces with
  | nil => rfl
  | cons piece rest ih =>
    obtain ⟨hpiece, hrest⟩ := List.forall_mem_cons.1 h
    have hjoined : joinedBy sep (piece :: rest) ++ t =
        piece ++ sep :: (joinedBy sep rest ++ t) := by
      simp [joinedBy]
    rw [hjoined, splitOn_append_cons hpiece, ih hrest, List.cons_append]

/-- Every text is made of pieces that have ended and one that has not. -/
theorem exists_joinedBy (sep : Char) (s : List Char) :
    ∃ pieces last, s = joinedBy sep pieces ++ last ∧ (∀ piece ∈ pieces, sep ∉ piece) ∧
      sep ∉ last := by
  induction s with
  | nil => exact ⟨[], [], rfl, nofun, List.not_mem_nil⟩
  | cons c s ih =>
    obtain ⟨pieces, last, rfl, hpieces, hlast⟩ := ih
    by_cases hc : c = sep
    · refine ⟨[] :: pieces, last, by simp [joinedBy, hc], ?_, hlast⟩
      exact List.forall_mem_cons.2 ⟨List.not_mem_nil, hpieces⟩
    · cases pieces with
      | nil =>
        refine ⟨[], c :: last, rfl, nofun, ?_⟩
        rw [List.mem_cons, not_or]
        exact ⟨Ne.symm hc, hlast⟩
      | cons piece rest =>
        obtain ⟨hpiece, hrest⟩ := List.forall_mem_cons.1 hpieces
        refine ⟨(c :: piece) :: rest, last, by simp [joinedBy], ?_, hlast⟩
        refine List.forall_mem_cons.2 ⟨?_, hrest⟩
        rw [List.mem_cons, not_or]
        exact ⟨Ne.symm hc, hpiece⟩

theorem exists_splitOn_append (h : sep ∉ s) (t : List Char) :
    ∃ rest below, splitOn sep (s ++ t) = (s ++ rest) :: below := by
  induction s with
  | nil => exact List.exists_cons_of_ne_nil (splitOn_ne_nil sep t)
  | cons c s ih =>
    rw [List.mem_cons, not_or] at h
    obtain ⟨rest, below, hsplit⟩ := ih h.2
    exact ⟨rest, below, splitOn_cons_of_ne (Ne.symm h.1) hsplit⟩

theorem notMem_of_blank (hs : s.all isBlank = true) (hsep : isBlank sep = false) : sep ∉ s := by
  intro hmem
  rw [List.all_eq_true.1 hs sep hmem] at hsep
  cases hsep

theorem map_trim_splitOn_blank_append (hs : s.all isBlank = true) (hsep : isBlank sep = false)
    (t : List Char) : (splitOn sep (s ++ t)).map trim = (splitOn sep t).map trim := by
  induction s with
  | nil => rfl
  | cons c s ih =>
    have hc : c ≠ sep := fun heq => notMem_of_blank hs hsep (heq ▸ List.mem_cons_self)
    rw [List.all_cons, Bool.and_eq_true] at hs
    obtain ⟨piece, pieces, hpieces⟩ := List.exists_cons_of_ne_nil (splitOn_ne_nil sep (s ++ t))
    have htrim : trim (c :: piece) = trim piece :=
      trim_blank_append (s := [c]) (by simp [hs.1]) piece
    rw [← ih hs.2, List.cons_append, splitOn_cons_of_ne hc hpieces, hpieces, List.map_cons,
      List.map_cons, htrim]

/-- Blanks behind do not count if the pieces are trimmed. -/
theorem map_trim_splitOn_append_blank (ht : t.all isBlank = true) (hsep : isBlank sep = false)
    (s : List Char) : (splitOn sep (s ++ t)).map trim = (splitOn sep s).map trim := by
  obtain ⟨pieces, last, rfl, hpieces, hlast⟩ := exists_joinedBy sep s
  have hend : sep ∉ last ++ t := by
    rw [List.mem_append, not_or]
    exact ⟨hlast, notMem_of_blank ht hsep⟩
  rw [List.append_assoc, splitOn_joinedBy_append hpieces, splitOn_joinedBy_append hpieces,
    splitOn_of_notMem hend, splitOn_of_notMem hlast, List.map_append, List.map_append,
    List.map_singleton, List.map_singleton, trim_append_blank _ ht]

/-- White space at the ends of a text is white space at the ends of its pieces. -/
theorem map_trim_splitOn_trim (hsep : isBlank sep = false) (s : List Char) :
    (splitOn sep (trim s)).map trim = (splitOn sep s).map trim := by
  obtain ⟨lead, hlead, hs⟩ := exists_trimStart s
  obtain ⟨tail, htail, hrest⟩ := exists_trimEnd (trimStart s)
  conv_rhs => rw [hs, map_trim_splitOn_blank_append hlead hsep, hrest,
    map_trim_splitOn_append_blank htail hsep]
  rfl

end StoredRoutines.Text
