import StoredRoutines.Proofs.Text.Pieces
import StoredRoutines.Signature
import StoredRoutines.Source

/-!
# The place of a signature

The first signature of a text begins on a line, and no line above holds one. The line where it
begins holds it unless its words are spread over several lines.

## Main definitions

- `Signature.Spells` — the words of a signature
- `Signature.Begins` — the lines above the first signature of a text, and its words

## Main results

- `Signature.atStart?_eq_some_iff`, `Signature.findIn?_eq_some_iff_first` — what is read as a
  signature, and which one is found
- `Signature.Begins.not_isOnLine`, `Signature.Begins.isOnLine` — where lines hold it
-/

namespace StoredRoutines

open Text (IsRun)

namespace Signature

variable {s rest words : List Char} {signature : Signature}

/-! ### Words -/

/-- The words of a signature: `create`, the kind and a name, with white space between them. The
    keywords may be in any case. -/
inductive Spells : Signature → List Char → Prop
  | words {kind : RoutineKind} {create gap word gap' name : String}
      (hcreate : create.toList.map Char.toLower = "create".toList) (hgap : IsRun Text.isBlank gap)
      (hword : word.toList.map Char.toLower = kind.word.toList) (hgap' : IsRun Text.isBlank gap')
      (hname : IsRun isNameChar name) :
      Spells ⟨kind, name⟩
        (create.toList ++ (gap.toList ++ (word.toList ++ (gap'.toList ++ name.toList))))

/-- A keyword is found in any case of its letters. -/
theorem afterKeyword?_eq_some_iff {ks : List Char} :
    afterKeyword? ks s = some rest ↔ ∃ u, u.map Char.toLower = ks ∧ s = u ++ rest := by
  induction ks generalizing s with
  | nil => simp [afterKeyword?, eq_comm]
  | cons k ks ih =>
    cases s with
    | nil => simp [afterKeyword?]
    | cons c s =>
      rw [afterKeyword?]
      by_cases hc : c.toLower = k
      · rw [if_pos hc, ih]
        constructor
        · rintro ⟨u, hu, rfl⟩
          exact ⟨c :: u, by rw [List.map_cons, hc, hu], rfl⟩
        · rintro ⟨u, hu, hs⟩
          obtain ⟨d, u, rfl⟩ := List.exists_cons_of_ne_nil (l := u) (by rintro rfl; cases hu)
          obtain ⟨rfl, rfl⟩ := List.cons.inj hs
          exact ⟨u, (List.cons.inj hu).2, rfl⟩
      · rw [if_neg hc]
        refine iff_of_false (Option.some_ne_none _).symm ?_
        rintro ⟨u, hu, hs⟩
        obtain ⟨d, u, rfl⟩ := List.exists_cons_of_ne_nil (l := u) (by rintro rfl; cases hu)
        obtain ⟨rfl, rfl⟩ := List.cons.inj hs
        exact hc (List.cons.inj hu).1

/-- The two kinds begin with different letters. -/
theorem afterKeyword?_function_of_procedure
    (h : afterKeyword? RoutineKind.procedure.word.toList s = some rest) :
    afterKeyword? RoutineKind.function.word.toList s = none := by
  cases s with
  | nil => cases h
  | cons c s =>
    have hfirst : c.toLower = 'p' := by
      by_contra hne
      rw [show RoutineKind.procedure.word.toList = 'p' :: "rocedure".toList from rfl,
        afterKeyword?, if_neg hne] at h
      cases h
    have hother : c.toLower ≠ 'f' := by
      rw [hfirst]
      decide
    exact if_neg hother

theorem kindAtStart?_eq_some_iff {kind : RoutineKind} : kindAtStart? s = some (kind, rest) ↔
    ∃ u, u.map Char.toLower = kind.word.toList ∧ s = u ++ rest := by
  rw [← afterKeyword?_eq_some_iff, kindAtStart?]
  cases hprocedure : afterKeyword? RoutineKind.procedure.word.toList s with
  | some r =>
    have hfunction := afterKeyword?_function_of_procedure hprocedure
    cases kind <;> simp [hprocedure, hfunction]
  | none => cases kind <;> simp [hprocedure]

/-! ### Letters of words -/

theorem isLower_of_keyword {ks u : List Char} (hks : ∀ k ∈ ks, k.isLower = true)
    (h : u.map Char.toLower = ks) : ∀ c ∈ u, c.toLower.isLower = true := by
  intro c hc
  apply hks
  rw [← h]
  exact List.mem_map_of_mem hc

theorem isLower_create : ∀ k ∈ "create".toList, k.isLower = true :=
  List.all_eq_true.1 (by decide)

theorem isLower_word (kind : RoutineKind) : ∀ k ∈ kind.word.toList, k.isLower = true := by
  cases kind <;> exact List.all_eq_true.1 (by decide)

theorem isBlank_of_isLower {c : Char} (h : c.toLower.isLower = true) : Text.isBlank c = false :=
  Text.isBlank_eq_false (p := fun c => c.toLower.isLower) (by decide +kernel) h

theorem isBlank_of_isNameChar {c : Char} (h : isNameChar c = true) : Text.isBlank c = false :=
  Text.isBlank_eq_false (by decide +kernel) h

theorem head_keyword {ks u : List Char} (hks : ∀ k ∈ ks, k.isLower = true)
    (h : u.map Char.toLower = ks) (hne : ks ≠ []) (t : List Char) :
    ∀ c ∈ (u ++ t).head?, Text.isBlank c = false := by
  intro c hc
  have hu : u ≠ [] := by
    rintro rfl
    exact hne h.symm
  rw [List.head?_append_of_ne_nil _ hu] at hc
  exact isBlank_of_isLower (isLower_of_keyword hks h c (List.mem_of_mem_head? hc))

/-- What may occur in the words of a signature. -/
theorem Spells.mem (h : Spells signature words) :
    ∀ c ∈ words, c.toLower.isLower = true ∨ Text.isBlank c = true ∨
      isNameChar c = true := by
  obtain ⟨hcreate, hgap, hword, hgap', hname⟩ := h
  intro c hc
  simp only [List.mem_append] at hc
  rcases hc with hc | hc | hc | hc | hc
  · exact .inl (isLower_of_keyword isLower_create hcreate c hc)
  · exact .inr (.inl (hgap.all c hc))
  · exact .inl (isLower_of_keyword (isLower_word _) hword c hc)
  · exact .inr (.inl (hgap'.all c hc))
  · exact .inr (.inr (hname.all c hc))

/-! ### The grammar -/

/-- What spells a signature is read as it, up to the first character that belongs to no name. -/
theorem atStart?_append {words rest : List Char} (hspells : Spells signature words)
    (hrest : ∀ c ∈ rest.head?, isNameChar c = false) :
    atStart? (words ++ rest) = some signature := by
  obtain ⟨hcreate, hgap, hword, hgap', hname⟩ := hspells
  rename_i kind create gap word gap' name
  have hkind : kind.word.toList ≠ [] := by cases kind <;> decide
  have hafter : Text.afterBlanks? (gap'.toList ++ (name.toList ++ rest)) =
      some (name.toList ++ rest) := by
    refine Text.afterBlanks?_eq_some_iff_gap.2 ⟨gap', hgap', rfl, ?_⟩
    intro c hc
    exact isBlank_of_isNameChar (hname.head_append rest c hc)
  generalize hfour : gap'.toList ++ (name.toList ++ rest) = s₄ at hafter
  have hkindAt : kindAtStart? (word.toList ++ s₄) = some (kind, s₄) :=
    kindAtStart?_eq_some_iff.2 ⟨word.toList, hword, rfl⟩
  have hbefore : Text.afterBlanks? (gap.toList ++ (word.toList ++ s₄)) =
      some (word.toList ++ s₄) :=
    Text.afterBlanks?_eq_some_iff_gap.2
      ⟨gap, hgap, rfl, head_keyword (isLower_word kind) hword hkind s₄⟩
  have hcreateAt : afterKeyword? "create".toList
      (create.toList ++ (gap.toList ++ (word.toList ++ s₄))) =
        some (gap.toList ++ (word.toList ++ s₄)) :=
    afterKeyword?_eq_some_iff.2 ⟨create.toList, hcreate, rfl⟩
  obtain ⟨htake, -⟩ := Text.span_append hname.all rest hrest
  have hfull : name.toList.isEmpty = false := by simpa using hname.ne_empty
  simp only [List.append_assoc, hfour, atStart?, hcreateAt, hbefore, hkindAt, hafter, htake, hfull,
    Option.bind_eq_bind, Option.bind_some, Bool.false_eq_true, if_false, String.ofList_toList]

/-- A signature is read exactly if it is spelled out up to the end of its name. -/
theorem atStart?_eq_some_iff : atStart? s = some signature ↔
    ∃ words rest, s = words ++ rest ∧ Spells signature words ∧
      ∀ c ∈ rest.head?, isNameChar c = false := by
  constructor
  · intro h
    simp only [atStart?, Option.bind_eq_bind, Option.bind_eq_some_iff] at h
    obtain ⟨s₁, h₁, s₂, h₂, ⟨kind, s₃⟩, h₃, s₄, h₄, h⟩ := h
    obtain ⟨create, hcreate, rfl⟩ := afterKeyword?_eq_some_iff.1 h₁
    obtain ⟨gap, hgap, rfl, -⟩ := Text.afterBlanks?_eq_some_iff_gap.1 h₂
    obtain ⟨word, hword, rfl⟩ := kindAtStart?_eq_some_iff.1 h₃
    obtain ⟨gap', hgap', rfl, -⟩ := Text.afterBlanks?_eq_some_iff_gap.1 h₄
    simp only [Option.ite_none_left_eq_some, Option.some.injEq] at h
    obtain ⟨hne, rfl⟩ := h
    have hname := Text.isRun_takeWhile hne
    rw [← String.toList_ofList (l := create)] at hcreate
    rw [← String.toList_ofList (l := word)] at hword
    have hspells := Spells.words hcreate hgap hword hgap' hname
    refine ⟨_, s₄.dropWhile isNameChar, ?_, hspells, Text.head_dropWhile isNameChar s₄⟩
    simp only [String.toList_ofList, List.append_assoc, List.takeWhile_append_dropWhile]
  · rintro ⟨words, rest, rfl, hspells, hrest⟩
    exact atStart?_append hspells hrest

/-- A signature stands at the start of a text that begins with its words, even if the name goes
    on. -/
theorem atStart?_isSome_iff :
    (atStart? s).isSome ↔ ∃ signature words, Spells signature words ∧ words <+: s := by
  constructor
  · intro h
    obtain ⟨signature, hsome⟩ := Option.isSome_iff_exists.1 h
    obtain ⟨words, rest, rfl, hspells, -⟩ := atStart?_eq_some_iff.1 hsome
    exact ⟨signature, words, hspells, List.prefix_append words rest⟩
  · rintro ⟨-, words, ⟨hcreate, hgap, hword, hgap', hname⟩, rest, rfl⟩
    rename_i kind create gap word gap' name
    have hlong : IsRun isNameChar (String.ofList (name.toList ++ rest.takeWhile isNameChar)) := by
      refine ⟨by simp [hname.ne_empty], ?_⟩
      rw [String.toList_ofList, List.forall_mem_append]
      exact ⟨hname.all, List.all_eq_true.1 List.all_takeWhile⟩
    have hspells := Spells.words hcreate hgap hword hgap' hlong
    refine Option.isSome_iff_exists.2 ⟨_, atStart?_eq_some_iff.2
      ⟨_, rest.dropWhile isNameChar, ?_, hspells, Text.head_dropWhile isNameChar rest⟩⟩
    simp only [String.toList_ofList, List.append_assoc, List.takeWhile_append_dropWhile]

theorem findIn?_cons_of_none {c : Char} (h : atStart? (c :: s) = none) :
    findIn? (c :: s) = findIn? s := by
  rw [findIn?, h]

/-- The signature that is found is the first one that is spelled out. -/
theorem findIn?_eq_some_iff : findIn? s = some signature ↔
    ∃ before after, s = before ++ after ∧ atStart? after = some signature ∧
      ∀ u v, before = u ++ v → v ≠ [] → atStart? (v ++ after) = none := by
  induction s with
  | nil =>
    refine iff_of_false (Option.some_ne_none _).symm ?_
    rintro ⟨before, after, hs, hsome, -⟩
    obtain ⟨rfl, rfl⟩ := List.append_eq_nil_iff.1 hs.symm
    cases hsome
  | cons c s ih =>
    cases hstart : atStart? (c :: s) with
    | some found =>
      -- a signature at the start is the first one, so the text in front of it is empty
      rw [findIn?, hstart]
      constructor
      · rintro ⟨rfl⟩
        refine ⟨[], c :: s, rfl, hstart, ?_⟩
        intro u v huv hv
        exact absurd (List.append_eq_nil_iff.1 huv.symm).2 hv
      · rintro ⟨before, after, hs, hsome, hfirst⟩
        cases before with
        | nil =>
          rw [hs, List.nil_append, hsome] at hstart
          exact hstart.symm
        | cons d before =>
          have hnone := hfirst [] (d :: before) rfl (List.cons_ne_nil _ _)
          rw [← hs, hstart] at hnone
          cases hnone
    | none =>
      -- without one at the start both sides are about the rest of the text
      rw [findIn?_cons_of_none hstart, ih]
      constructor
      · rintro ⟨before, after, rfl, hsome, hfirst⟩
        refine ⟨c :: before, after, rfl, hsome, ?_⟩
        intro u v huv hv
        cases u with
        | nil =>
          rw [List.nil_append] at huv
          rw [← huv]
          exact hstart
        | cons d u => exact hfirst u v (List.cons.inj huv).2 hv
      · rintro ⟨before, after, hs, hsome, hfirst⟩
        cases before with
        | nil =>
          rw [hs, List.nil_append, hsome] at hstart
          cases hstart
        | cons d before =>
          obtain ⟨rfl, rfl⟩ := List.cons.inj hs
          refine ⟨before, after, rfl, hsome, ?_⟩
          intro u v huv hv
          exact hfirst (c :: u) v (congrArg (c :: ·) huv) hv

/-! ### The first signature -/

/-- The first signature of a text: the text before it, its words, and what follows them. -/
structure First (s before words after : List Char) (signature : Signature) : Prop where
  split : s = before ++ (words ++ after)
  spells : Spells signature words
  ends : ∀ c ∈ after.head?, isNameChar c = false
  none_before : ∀ u v, before = u ++ v → v ≠ [] →
    ∀ other w, Spells other w → ¬ w <+: v ++ (words ++ after)

/-- Whether a signature begins earlier can be looked up position by position. -/
theorem First.of_drop {before after : List Char} (hsplit : s = before ++ (words ++ after))
    (hspells : Spells signature words) (hends : ∀ c ∈ after.head?, isNameChar c = false)
    (hnone : ∀ i < before.length, atStart? (s.drop i) = none) :
    First s before words after signature := by
  refine ⟨hsplit, hspells, hends, ?_⟩
  intro u v huv hv other w hother hw
  have hlength : u.length < before.length := by
    have := List.length_pos_iff.2 hv
    rw [huv, List.length_append]
    omega
  have hstart := hnone u.length hlength
  rw [hsplit, huv, List.append_assoc, List.drop_left] at hstart
  have hsome := atStart?_isSome_iff.2 ⟨other, w, hother, hw⟩
  rw [hstart] at hsome
  cases hsome

/-- The first signature of a text is the one that is found. -/
theorem findIn?_eq_some_iff_first : findIn? s = some signature ↔
    ∃ before words after, First s before words after signature := by
  have hnone : ∀ {t : List Char},
      atStart? t = none ↔ ∀ other w, Spells other w → ¬ w <+: t := by
    intro t
    rw [← Option.not_isSome_iff_eq_none, atStart?_isSome_iff]
    simp only [not_exists, not_and]
  simp only [findIn?_eq_some_iff, atStart?_eq_some_iff, hnone]
  constructor
  · rintro ⟨before, -, rfl, ⟨words, after, rfl, hspells, hends⟩, hfirst⟩
    exact ⟨before, words, after, rfl, hspells, hends, hfirst⟩
  · rintro ⟨before, words, after, rfl, hspells, hends, hfirst⟩
    exact ⟨before, _, rfl, ⟨words, after, rfl, hspells, hends⟩, hfirst⟩

theorem Spells.ne_nil (h : Spells signature words) : words ≠ [] := by
  obtain ⟨hcreate, -, -, -, -⟩ := h
  intro hnil
  rw [(List.append_eq_nil_iff.1 hnil).1] at hcreate
  cases hcreate

/-- A line holds a signature if its words occur on it. -/
theorem isOnLine_iff {line : String} :
    isOnLine line = true ↔
      ∃ signature words, Spells signature words ∧ words <:+: line.toList := by
  rw [isOnLine, find?]
  induction line.toList with
  | nil =>
    refine iff_of_false nofun ?_
    rintro ⟨signature, words, hspells, hwords⟩
    exact hspells.ne_nil (List.infix_nil.1 hwords)
  | cons c s ih =>
    cases hstart : atStart? (c :: s) with
    | some found =>
      rw [findIn?, hstart]
      have hsome : (atStart? (c :: s)).isSome := by rw [hstart]; rfl
      obtain ⟨signature, words, hspells, hwords⟩ := atStart?_isSome_iff.1 hsome
      exact iff_of_true rfl ⟨signature, words, hspells, hwords.isInfix⟩
    | none =>
      rw [findIn?_cons_of_none hstart, ih]
      have hnot : ∀ signature words, Spells signature words → ¬ words <+: c :: s := by
        intro signature words hspells hwords
        have hsome := atStart?_isSome_iff.2 ⟨signature, words, hspells, hwords⟩
        rw [hstart] at hsome
        cases hsome
      constructor
      · rintro ⟨signature, words, hspells, hwords⟩
        exact ⟨signature, words, hspells, List.infix_cons hwords⟩
      · rintro ⟨signature, words, hspells, hwords⟩
        -- the words begin here, which has been excluded, or further on
        rcases List.infix_cons_iff.1 hwords with hwords | hwords
        · exact absurd hwords (hnot signature words hspells)
        · exact ⟨signature, words, hspells, hwords⟩

/-! ### Lines -/

/-- The first signature of a text begins below the lines `above`, with these words. -/
def Begins (text : String) (above : List String) (words : List Char) (signature : Signature) :
    Prop :=
  ∃ before after, First text.toList before words after signature ∧
    above = (Source.linesOf text).take (before.count '\n')

/-- The signature of a text is found at the line where it begins. -/
theorem find?_eq_some_iff_begins {text : String} :
    find? text = some signature ↔ ∃ above words, Begins text above words signature := by
  rw [find?, findIn?_eq_some_iff_first]
  constructor
  · rintro ⟨before, words, after, hfirst⟩
    exact ⟨_, words, before, after, hfirst, rfl⟩
  · rintro ⟨above, words, before, after, hfirst, -⟩
    exact ⟨before, words, after, hfirst⟩

/-- The lines of a text of which the first have ended. -/
theorem linesOf_joinedBy {text : String} {pieces : List (List Char)} {t : List Char}
    (hpieces : ∀ piece ∈ pieces, '\n' ∉ piece)
    (htext : text.toList = Text.joinedBy '\n' pieces ++ t) :
    Source.linesOf text =
      pieces.map (fun piece => String.ofList (Source.dropCarriageReturn piece)) ++
        (Text.splitOn '\n' t).map fun piece => String.ofList (Source.dropCarriageReturn piece) := by
  rw [Source.linesOf, htext, Text.splitOn_joinedBy_append hpieces, List.map_append]

theorem count_joinedBy {pieces : List (List Char)} {last : List Char}
    (hpieces : ∀ piece ∈ pieces, '\n' ∉ piece) (hlast : '\n' ∉ last) :
    (Text.joinedBy '\n' pieces ++ last).count '\n' = pieces.length := by
  have hlength := Text.length_splitOn '\n' (Text.joinedBy '\n' pieces ++ last)
  rw [Text.splitOn_joinedBy_append hpieces, Text.splitOn_of_notMem hlast, List.length_append,
    List.length_singleton] at hlength
  omega

/-- The text up to the first signature consists of the lines above and the beginning of a line. -/
theorem begins_iff {text : String} {above : List String} : Begins text above words signature ↔
    ∃ pieces last after, (∀ piece ∈ pieces, '\n' ∉ piece) ∧ '\n' ∉ last ∧
      First text.toList (Text.joinedBy '\n' pieces ++ last) words after signature ∧
      above = pieces.map fun piece => String.ofList (Source.dropCarriageReturn piece) := by
  have htake : ∀ {pieces : List (List Char)} {last after : List Char},
      (∀ piece ∈ pieces, '\n' ∉ piece) → '\n' ∉ last →
      First text.toList (Text.joinedBy '\n' pieces ++ last) words after signature →
        (Source.linesOf text).take ((Text.joinedBy '\n' pieces ++ last).count '\n') =
          pieces.map fun piece => String.ofList (Source.dropCarriageReturn piece) := by
    intro pieces last after hpieces hlast hfirst
    have htext := hfirst.split
    rw [List.append_assoc] at htext
    rw [linesOf_joinedBy hpieces htext, count_joinedBy hpieces hlast]
    exact List.take_left' (List.length_map _)
  constructor
  · rintro ⟨before, after, hfirst, rfl⟩
    obtain ⟨pieces, last, rfl, hpieces, hlast⟩ := Text.exists_joinedBy '\n' before
    exact ⟨pieces, last, after, hpieces, hlast, hfirst, htake hpieces hlast hfirst⟩
  · rintro ⟨pieces, last, after, hpieces, hlast, hfirst, rfl⟩
    exact ⟨_, after, hfirst, (htake hpieces hlast hfirst).symm⟩

theorem dropCarriageReturn_isPrefix (line : List Char) :
    Source.dropCarriageReturn line <+: line := by
  rw [Source.dropCarriageReturn]
  split
  · exact List.dropLast_prefix line
  · exact List.prefix_rfl

/-- No line above the first signature holds one. -/
theorem Begins.not_isOnLine {text : String} {above : List String}
    (h : Begins text above words signature) : ∀ line ∈ above, isOnLine line = false := by
  obtain ⟨pieces, last, after, hpieces, hlast, hfirst, rfl⟩ := begins_iff.1 h
  intro line hline
  obtain ⟨piece, hpiece, rfl⟩ := List.mem_map.1 hline
  obtain ⟨l, r, rfl⟩ := List.append_of_mem hpiece
  rw [Bool.eq_false_iff, Ne, isOnLine_iff]
  rintro ⟨other, w, hspells, hw⟩
  rw [String.toList_ofList] at hw
  obtain ⟨u, v, huv⟩ := hw.trans (dropCarriageReturn_isPrefix piece).isInfix
  -- the words on the line would begin before those of the first signature
  refine hfirst.none_before (Text.joinedBy '\n' l ++ u)
    (w ++ (v ++ '\n' :: (Text.joinedBy '\n' r ++ last))) ?_ ?_ other w hspells ?_
  · simp [Text.joinedBy, ← huv]
  · simp [hspells.ne_nil]
  · rw [List.append_assoc]
    exact List.prefix_append _ _

theorem Spells.return_ne_getLast (h : Spells signature words) : words.getLast? ≠ some '\r' := by
  obtain ⟨-, -, -, -, hname⟩ := h
  rename_i kind create gap word gap' name
  have hne := hname.toList_ne_nil
  intro hlast
  rw [List.getLast?_append_of_ne_nil _ (by simp [hne]),
    List.getLast?_append_of_ne_nil _ (by simp [hne]),
    List.getLast?_append_of_ne_nil _ (by simp [hne]), List.getLast?_append_of_ne_nil _ hne] at hlast
  exact absurd (hname.all _ (List.mem_of_mem_getLast? hlast)) (by decide)

/-- What is dropped at the end of a line is not part of a signature. -/
theorem Spells.dropCarriageReturn (h : Spells signature words) (before after : List Char) :
    ∃ rest, Source.dropCarriageReturn (before ++ (words ++ after)) =
      before ++ (words ++ rest) := by
  rw [Source.dropCarriageReturn]
  split
  next hlast =>
    have hafter : after ≠ [] := by
      rintro rfl
      rw [List.append_nil, List.getLast?_append_of_ne_nil _ h.ne_nil] at hlast
      exact h.return_ne_getLast hlast
    refine ⟨after.dropLast, ?_⟩
    rw [List.dropLast_append_of_ne_nil (by simp [hafter]), List.dropLast_append_of_ne_nil hafter]
  next => exact ⟨after, rfl⟩

/-- A signature that is not spread over several lines stands on the line where it begins. -/
theorem Begins.isOnLine {text : String} {above : List String}
    (h : Begins text above words signature)
    (hwords : '\n' ∉ words) :
    ∃ line below, Source.linesOf text = above ++ line :: below ∧ isOnLine line = true := by
  obtain ⟨pieces, last, after, hpieces, hlast, hfirst, rfl⟩ := begins_iff.1 h
  have htext := hfirst.split
  rw [List.append_assoc] at htext
  have hstart : '\n' ∉ last ++ words := by
    rw [List.mem_append, not_or]
    exact ⟨hlast, hwords⟩
  obtain ⟨rest, below, hsplit⟩ : ∃ rest below,
      Text.splitOn '\n' (last ++ (words ++ after)) = (last ++ (words ++ rest)) :: below := by
    obtain ⟨rest, below, hsplit⟩ := Text.exists_splitOn_append hstart after
    exact ⟨rest, below, by simpa only [List.append_assoc] using hsplit⟩
  obtain ⟨rest', hdrop⟩ := hfirst.spells.dropCarriageReturn last rest
  refine ⟨_, _, by rw [linesOf_joinedBy hpieces htext, hsplit, List.map_cons], ?_⟩
  rw [isOnLine_iff]
  refine ⟨signature, words, hfirst.spells, ?_⟩
  rw [String.toList_ofList, hdrop, ← List.append_assoc]
  exact ⟨last, rest', rfl⟩

/-! ### A signature on two lines -/

/-- The words of a signature with a line feed in them. -/
def brokenWords : List Char := "create\nprocedure x".toList

/-- A procedure is spelled out with any blanks between the words. -/
theorem spells_procedure {gap name : String} (hgap : IsRun Text.isBlank gap)
    (hname : IsRun isNameChar name) :
    Spells ⟨.procedure, name⟩
      ("create".toList ++ (gap.toList ++ ("procedure".toList ++ (" ".toList ++ name.toList)))) :=
  .words (by decide) hgap (by decide) (by decide) hname

theorem spells_brokenWords : Spells ⟨.procedure, "x"⟩ brokenWords := by
  have hgap : IsRun Text.isBlank "\n" := by decide
  exact spells_procedure hgap (by decide)

theorem Spells.hyphen_notMem (h : Spells signature words) : '-' ∉ words := by
  intro hmem
  rcases h.mem _ hmem with hc | hc | hc <;> revert hc <;> decide

theorem Spells.head (h : Spells signature words) :
    ∀ c ∈ words.head?, c.toLower.isLower = true := by
  obtain ⟨hcreate, -, -, -, -⟩ := h
  rename_i kind create gap word gap' name
  intro c hc
  have hne : create.toList ≠ [] := by
    intro hnil
    rw [hnil] at hcreate
    cases hcreate
  rw [List.head?_append_of_ne_nil _ hne] at hc
  exact isLower_of_keyword isLower_create hcreate c (List.mem_of_mem_head? hc)

/-- The words of a signature that begin before a hyphen end before it. -/
theorem prefix_of_hyphen (h : Spells signature words) {s t : List Char}
    (hs : words <+: s ++ '-' :: t) :
    words <+: s := by
  rcases List.prefix_or_prefix_of_prefix hs (List.prefix_append s ('-' :: t)) with hle | hle
  · exact hle
  · obtain ⟨rest, rfl⟩ := hle
    cases rest with
    | nil => simp
    | cons c rest =>
      rw [List.prefix_append_right_inj] at hs
      obtain ⟨rfl, -⟩ := List.cons_prefix_cons.1 hs
      exact absurd (by simp) h.hyphen_notMem

/-- A signature that is broken over two lines is the first one if it stands in front of the first
    one. -/
theorem First.broken {s before last after : List Char}
    (h : First s (before ++ last) words after signature) (rest : List Char) :
    First (before ++ ("-- ".toList ++ (brokenWords ++ '\n' :: rest))) (before ++ "-- ".toList)
      brokenWords ('\n' :: rest) ⟨.procedure, "x"⟩ := by
  refine ⟨(List.append_assoc _ _ _).symm, spells_brokenWords, ?_, ?_⟩
  · rintro c ⟨⟩
    decide
  intro u v huv hv other w hspells hw
  rcases List.append_eq_append_iff.1 huv with ⟨tail, -, htail⟩ | ⟨tail, hu, rfl⟩
  · -- behind the lines above there is no letter to begin with
    obtain ⟨c, v, rfl⟩ := List.exists_cons_of_ne_nil hv
    obtain ⟨d, w, rfl⟩ := List.exists_cons_of_ne_nil hspells.ne_nil
    obtain ⟨rfl, -⟩ := List.cons_prefix_cons.1 hw
    have hletter := hspells.head d rfl
    have hmem : d ∈ "-- ".toList := by
      rw [htail]
      simp
    have hnone : "-- ".toList.all (fun x => !x.toLower.isLower) = true := by decide
    have hnot := List.all_eq_true.1 hnone d hmem
    rw [hletter] at hnot
    cases hnot
  · -- in the lines above the words would begin in the other text too
    have hshort : w <+: tail := by
      apply prefix_of_hyphen hspells
      rw [List.append_assoc] at hw
      exact hw
    have hne : tail ++ last ≠ [] := by
      intro hnil
      rw [(List.append_eq_nil_iff.1 hnil).1] at hshort
      exact hspells.ne_nil (List.prefix_nil.1 hshort)
    refine h.none_before u (tail ++ last) ?_ hne other w hspells ?_
    · rw [hu, List.append_assoc]
    · rw [List.append_assoc]
      exact hshort.trans (List.prefix_append _ _)

/-- A line that can stand among the lines of a text. -/
def IsWhole (line : String) : Prop :=
  '\n' ∉ line.toList ∧ line.toList.getLast? ≠ some '\r'

/-- Lines that are whole are read as they are, behind the pieces of other lines. -/
theorem linesOf_whole {pieces : List (List Char)} {lines : List String} {final : String}
    (hpieces : ∀ piece ∈ pieces, '\n' ∉ piece)
    (h : ∀ line ∈ lines ++ [final], IsWhole line) :
    Source.linesOf (String.ofList (Text.joinedBy '\n' pieces ++
        (Text.joinedBy '\n' (lines.map String.toList) ++ final.toList))) =
      pieces.map (fun piece => String.ofList (Source.dropCarriageReturn piece)) ++
        (lines ++ [final]) := by
  obtain ⟨hlines, hfinal⟩ := List.forall_mem_append.1 h
  have hinner : ∀ piece ∈ lines.map String.toList, '\n' ∉ piece := by
    rw [List.forall_mem_map]
    intro line hline
    exact (hlines line hline).1
  have hsplit : Text.splitOn '\n' (Text.joinedBy '\n' (lines.map String.toList) ++ final.toList) =
      (lines ++ [final]).map String.toList := by
    rw [Text.splitOn_joinedBy_append hinner,
      Text.splitOn_of_notMem (hfinal final (List.mem_singleton_self final)).1, List.map_append]
    rfl
  rw [linesOf_joinedBy hpieces String.toList_ofList, hsplit, List.map_map]
  refine congrArg _ ((List.map_congr_left fun line hline => ?_).trans (List.map_id _))
  rw [Function.comp_apply, Source.dropCarriageReturn, if_neg (h line hline).2, String.ofList_toList]
  rfl

/-- Below the lines above a signature there could as well begin one that is spread over two lines,
    with anything below. -/
theorem Begins.broken {text : String} {above : List String} (h : Begins text above words signature)
    {more : List String} {final : String} (hmore : ∀ line ∈ more ++ [final], IsWhole line) :
    ∃ text', Source.linesOf text' = above ++ "-- create" :: "procedure x" :: (more ++ [final]) ∧
      Begins text' above brokenWords ⟨.procedure, "x"⟩ := by
  obtain ⟨pieces, last, after, hpieces, hlast, hfirst, rfl⟩ := begins_iff.1 h
  have hwhole : ∀ line ∈ "-- create" :: "procedure x" :: more ++ [final], IsWhole line := by
    rw [List.cons_append, List.cons_append, List.forall_mem_cons, List.forall_mem_cons]
    exact ⟨⟨by decide, by decide⟩, ⟨by decide, by decide⟩, hmore⟩
  have hjoined : Text.joinedBy '\n' (("-- create" :: "procedure x" :: more).map String.toList) =
      "-- ".toList ++ (brokenWords ++ '\n' :: Text.joinedBy '\n' (more.map String.toList)) := by
    have hcreate : "-- create".toList = "-- ".toList ++ "create".toList := by decide
    have hwords : brokenWords = "create".toList ++ '\n' :: "procedure x".toList := by decide
    rw [List.map_cons, List.map_cons, Text.joinedBy, List.flatMap_cons, List.flatMap_cons,
      ← Text.joinedBy, hcreate, hwords]
    simp only [List.append_assoc, List.cons_append, List.nil_append]
  have hbroken := hfirst.broken (Text.joinedBy '\n' (more.map String.toList) ++ final.toList)
  rw [← String.toList_ofList (l := Text.joinedBy '\n' pieces ++ _)] at hbroken
  have hlines := linesOf_whole hpieces hwhole
  rw [hjoined] at hlines
  simp only [List.append_assoc, List.cons_append] at hlines
  refine ⟨_, hlines, begins_iff.2 ⟨pieces, "-- ".toList, _, hpieces, by decide, hbroken, rfl⟩⟩

end Signature

end StoredRoutines
