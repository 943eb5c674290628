import StoredRoutines.Proofs.Directive.Accepted

/-!
# Written directives

A directive has a written form of one line. What the recognisers take from a line does not depend on
what follows it, so a line is read piece by piece from left to right.

## Main definitions

- `comment` — the line with a keyword and what it says
- `Designation.Writable`, `Designation.line` — the designations that can be written, and their lines
- `ListParameter.Writable`, `ListParameter.line` — the same for parameter directives

## Main results

- `Designation.designation?_line`, `Designation.ofArguments_arguments` — a designation is read again
- `returnType?_comment` — a return type is read again
- `ListParameter.listParameter?_line` — a parameter directive is read again
-/

namespace StoredRoutines

open Text (IsRun IsTidy toList_spaced)

namespace DirectiveLine

theorem isBlank_of_isWord {c : Char} (h : Text.isWord c = true) : Text.isBlank c = false :=
  Text.isBlank_eq_false (by decide +kernel) h

theorem isBlank_of_isReturnChar {c : Char} (h : isReturnChar c = true) : Text.isBlank c = false :=
  Text.isBlank_eq_false (by decide +kernel) h

theorem isBlank_of_isIdentifierChar {c : Char} (h : isIdentifierChar c = true) :
    Text.isBlank c = false :=
  Text.isBlank_eq_false (by decide +kernel) h

theorem isBlank_of_isMark {c : Char} (h : isMark c = true) : Text.isBlank c = false := by
  simpa using (Bool.and_eq_true_iff.1 h).1

theorem word?_append {word : String} (h : IsRun Text.isWord word) (rest : List Char)
    (hrest : ∀ c ∈ rest.head?, Text.isWord c = false) :
    word? (word.toList ++ rest) = some (word.toList, rest) := by
  obtain ⟨htake, hdrop⟩ := Text.span_append h.all rest hrest
  have hne : word.toList.isEmpty = false := by simpa using h.ne_empty
  simp only [word?, htake, hdrop, hne, Bool.false_eq_true, if_false]

/-! ### Comments -/

/-- The words that directives begin with. -/
def keywords : List String := ["type", "return", "param"]

/-- The comment that carries a directive. -/
def comment (keyword text : String) : String :=
  "-- " ++ keyword ++ ": " ++ text

theorem afterComment?_comment (keyword : String) (hk : keyword ∈ keywords) (text : String) :
    afterComment? keyword (comment keyword text).toList = some (' ' :: text.toList) := by
  simp only [comment, String.toList_append]
  simp only [keywords, List.mem_cons, List.not_mem_nil, or_false] at hk
  rcases hk with rfl | rfl | rfl <;> rfl

/-- A line carries at most one kind of directive. -/
theorem afterComment?_unique {keyword keyword' : String} {line : List Char}
    (hk : keyword ∈ keywords) (hk' : keyword' ∈ keywords) (h : (afterComment? keyword line).isSome)
    (h' : (afterComment? keyword' line).isSome) : keyword = keyword' := by
  unfold afterComment? at h h'
  cases hhyphens : ['-', '-'].isPrefixOf? (Text.trimStart line) with
  | none => simp [hhyphens] at h
  | some s =>
    cases hblanks : Text.afterBlanks? s with
    | none => simp [hhyphens, hblanks] at h
    | some s =>
      simp only [hhyphens, hblanks, Option.bind_eq_bind, Option.bind_some] at h h'
      obtain ⟨rest, hrest⟩ := Option.isSome_iff_exists.1 h
      obtain ⟨rest', hrest'⟩ := Option.isSome_iff_exists.1 h'
      have hprefix : keyword.toList ++ [':'] <+: s :=
        ⟨rest, List.isPrefixOf?_eq_some_iff_append_eq.1 hrest⟩
      have hprefix' : keyword'.toList ++ [':'] <+: s :=
        ⟨rest', List.isPrefixOf?_eq_some_iff_append_eq.1 hrest'⟩
      have hkeywords : ∀ k ∈ keywords, ∀ k' ∈ keywords,
          (k.toList ++ [':']).isPrefixOf (k'.toList ++ [':']) → k = k' := by decide
      rcases List.prefix_or_prefix_of_prefix hprefix hprefix' with hle | hle
      · exact hkeywords _ hk _ hk' (List.isPrefixOf_iff_prefix.2 hle)
      · exact (hkeywords _ hk' _ hk (List.isPrefixOf_iff_prefix.2 hle)).symm

/-! ### Type directives -/

/-- The name of a column in a list of columns. -/
@[mk_iff]
structure IsColumn (name : String) : Prop extends IsTidy name where
  comma_notMem : ',' ∉ name.toList

instance (name : String) : Decidable (IsColumn name) :=
  decidable_of_iff' _ (isColumn_iff name)

theorem isColumn_of_identifier {name : String} (h : IsRun isIdentifierChar name) :
    IsColumn name where
  toIsTidy := h.isTidy fun _ => isBlank_of_isIdentifierChar
  comma_notMem hmem := absurd (h.all _ hmem) (by decide)

theorem designation?_plain {kind : String} (h : IsRun Text.isWord kind) :
    designation? (comment "type" kind) = some (kind, none) := by
  have hcomment := afterComment?_comment "type" (by decide) kind
  have hhead := (h.isTidy fun _ => isBlank_of_isWord).head
  have hword := word?_append h [] nofun
  rw [List.append_nil] at hword
  simp only [designation?, hcomment, Option.bind_eq_bind, Option.bind_some,
    Text.trimStart_space hhead, hword, Text.trimStart_nil, List.isEmpty_nil, if_true,
    String.ofList_toList]

/-- A designation is read with its arguments. -/
theorem designation?_arguments {kind arguments : String} (h : IsRun Text.isWord kind)
    (hargs : IsTidy arguments) :
    designation? (comment "type" (kind ++ " " ++ arguments)) = some (kind, some arguments) := by
  have hcomment := afterComment?_comment "type" (by decide) (kind ++ " " ++ arguments)
  rw [toList_spaced] at hcomment
  have hhead : ∀ c ∈ (kind.toList ++ ' ' :: arguments.toList).head?, Text.isBlank c = false :=
    fun c hc => isBlank_of_isWord (h.head_append _ c hc)
  have hword := word?_append h (' ' :: arguments.toList) (by rintro c ⟨⟩; decide)
  have hempty : arguments.toList.isEmpty = false := by simpa using hargs.ne_empty
  -- nothing is left of the line behind the arguments
  have hline : ∀ c ∈ arguments.toList, (c != '\n') = true := fun c hc =>
    bne_iff_ne.2 fun heq => hargs.newline_notMem (heq ▸ hc)
  obtain ⟨htake, hdrop⟩ := Text.span_append hline [] nofun
  rw [List.append_nil] at htake hdrop
  simp only [designation?, hcomment, Option.bind_eq_bind, Option.bind_some,
    Text.trimStart_space hhead, hword, Text.trimStart_space hargs.head, hempty, hdrop, htake,
    List.all_nil, Bool.false_eq_true, if_false, if_true, String.ofList_toList]

theorem bulkInsertArguments?_spaced {table columns : String} (ht : IsRun isIdentifierChar table)
    (hc : IsRun (fun c => isIdentifierChar c || c == ',') columns) :
    bulkInsertArguments? (table ++ " " ++ columns) = some (table, columns) := by
  have hhead : ∀ c ∈ columns.toList.head?, Text.isBlank c = false :=
    (hc.isTidy fun _ => Text.isBlank_eq_false
      (p := fun c => isIdentifierChar c || c == ',') (by decide +kernel)).head
  obtain ⟨htake, hdrop⟩ := Text.span_append ht.all (' ' :: columns.toList)
    (by rintro c ⟨⟩; decide)
  have htable : table.toList.isEmpty = false := by simpa using ht.ne_empty
  have hcolumns : columns.toList.isEmpty = false := by simpa using hc.ne_empty
  have hall := List.all_eq_true.2 hc.all
  simp only [bulkInsertArguments?, toList_spaced, htake, hdrop, htable,
    Text.afterBlanks?_space hhead, hcolumns, hall, Option.bind_eq_bind, Option.bind_some,
    Bool.false_eq_true, if_false, Bool.not_false, Bool.and_self, if_true, String.ofList_toList]

/-! ### Return and parameter directives -/

theorem returnType?_comment {type : String} (h : IsRun isReturnChar type) :
    returnType? (comment "return" type) = some type := by
  have hcomment := afterComment?_comment "return" (by decide) type
  have hhead := (h.isTidy fun _ => isBlank_of_isReturnChar).head
  obtain ⟨htake, hdrop⟩ := Text.span_append h.all [] nofun
  rw [List.append_nil] at htake hdrop
  have hempty : type.toList.isEmpty = false := by simpa using h.ne_empty
  simp only [returnType?, hcomment, Option.bind_eq_bind, Option.bind_some,
    Text.trimStart_space hhead, htake, hdrop, hempty, List.all_nil, Bool.not_false, Bool.and_self,
    if_true, String.ofList_toList]

theorem marks?_spaced {delimiter enclosure escape : Char} (hd : isMark delimiter = true)
    (he : isMark enclosure = true) (hs : isMark escape = true) :
    marks? [' ', delimiter, ' ', enclosure, ' ', escape] = some (delimiter, enclosure, escape) := by
  have hread : ∀ {c : Char} (rest : List Char), isMark c = true →
      Text.afterBlanks? (' ' :: c :: rest) = some (c :: rest) ∧
        mark? (c :: rest) = some (c, rest) := by
    intro c rest hc
    refine ⟨Text.afterBlanks?_space ?_, if_pos hc⟩
    rintro c ⟨⟩
    exact isBlank_of_isMark hc
  simp only [marks?, hread _ hd, hread _ he, hread _ hs, Option.bind_eq_bind, Option.bind_some,
    List.all_nil, if_true]

end DirectiveLine

/-! ### Lists of columns -/

section

open DirectiveLine

variable {columns : List String}

theorem toList_joined (columns : List String) :
    (",".intercalate columns).toList = List.intercalate [','] (columns.map String.toList) :=
  String.toList_intercalate

theorem splitColumns_joined (hne : columns ≠ []) (h : ∀ c ∈ columns, IsColumn c) :
    splitColumns (",".intercalate columns) = columns := by
  have hcomma : ∀ piece ∈ columns.map String.toList, ',' ∉ piece :=
    List.forall_mem_map.2 fun c hc => (h c hc).comma_notMem
  rw [splitColumns, toList_joined, Text.splitOn_eq,
    List.splitOn_intercalate ',' hcomma (by simpa using hne), List.map_map]
  refine (List.map_congr_left fun c hc => ?_).trans (List.map_id _)
  rw [Function.comp_apply, (h c hc).trimmed, String.ofList_toList]
  rfl

theorem isTidy_joined (hne : columns ≠ []) (h : ∀ c ∈ columns, IsColumn c) :
    IsTidy (",".intercalate columns) := by
  have hpieces : ∀ piece ∈ columns.map String.toList, piece ≠ [] :=
    List.forall_mem_map.2 fun c hc => by
      rw [Ne, String.toList_eq_nil_iff]
      exact (h c hc).ne_empty
  refine ⟨fun hempty => ?_, ?_, ?_⟩
  · have hsplit := splitColumns_joined hne h
    rw [hempty] at hsplit
    exact (h "" (hsplit ▸ List.mem_cons_self)).ne_empty rfl
  · rw [toList_joined, Text.trim_eq_self_iff]
    refine ⟨fun c hc => ?_, fun c hc => ?_⟩
    · obtain ⟨_, hpiece, hc⟩ := Text.head_of_intercalate hpieces hc
      obtain ⟨name, hname, rfl⟩ := List.mem_map.1 hpiece
      exact (Text.trim_eq_self_iff.1 (h name hname).trimmed).1 c hc
    · obtain ⟨_, hpiece, hc⟩ := Text.getLast_of_intercalate hpieces hc
      obtain ⟨name, hname, rfl⟩ := List.mem_map.1 hpiece
      exact (Text.trim_eq_self_iff.1 (h name hname).trimmed).2 c hc
  · rw [toList_joined]
    intro hmem
    rcases Text.mem_intercalate hmem with hsep | ⟨_, hpiece, hmem⟩
    · cases hsep
    · obtain ⟨name, hname, rfl⟩ := List.mem_map.1 hpiece
      exact (h name hname).newline_notMem hmem

theorem isRun_joined (hne : columns ≠ []) (h : ∀ c ∈ columns, IsRun isIdentifierChar c) :
    IsRun (fun c => isIdentifierChar c || c == ',') (",".intercalate columns) := by
  refine ⟨(isTidy_joined hne fun c hc => isColumn_of_identifier (h c hc)).ne_empty,
    fun c hc => ?_⟩
  rw [toList_joined] at hc
  rcases Text.mem_intercalate hc with rfl | ⟨_, hpiece, hc⟩
  · rfl
  · obtain ⟨name, hname, rfl⟩ := List.mem_map.1 hpiece
    simp [(h name hname).all c hc]

end

namespace Designation

open DirectiveLine

/-- The designations that can be written in a directive. -/
def Writable : Designation → Prop
  | bulkInsert table columns =>
    IsRun isIdentifierChar table ∧ columns ≠ [] ∧ ∀ c ∈ columns, IsRun isIdentifierChar c
  | rowsWithKey columns => columns ≠ [] ∧ ∀ c ∈ columns, IsColumn c
  | rowsWithIndex columns => columns ≠ [] ∧ ∀ c ∈ columns, IsColumn c
  | plain kind => IsRun Text.isWord kind ∧ kind ∉ columnKinds

instance : DecidablePred Writable
  | bulkInsert _ _ => inferInstanceAs (Decidable (_ ∧ _))
  | rowsWithKey _ => inferInstanceAs (Decidable (_ ∧ _))
  | rowsWithIndex _ => inferInstanceAs (Decidable (_ ∧ _))
  | plain _ => inferInstanceAs (Decidable (_ ∧ _))

/-- What is written behind the word of a designation. -/
def arguments : Designation → Option String
  | bulkInsert table columns => some (table ++ " " ++ ",".intercalate columns)
  | rowsWithKey columns => some (",".intercalate columns)
  | rowsWithIndex columns => some (",".intercalate columns)
  | plain _ => none

/-- The directive for a designation. -/
def line (d : Designation) : String :=
  comment "type" <|
    match d.arguments with
    | some arguments => d.kind ++ " " ++ arguments
    | none => d.kind

theorem isRun_of_mem_columnKinds : ∀ kind ∈ columnKinds, IsRun Text.isWord kind := by
  decide +kernel

theorem Writable.kind {d : Designation} (h : d.Writable) : IsRun Text.isWord d.kind := by
  cases d with
  | plain word => exact h.1
  | _ => exact isRun_of_mem_columnKinds _ (by simp [Designation.kind, columnKinds])

theorem Writable.arguments {d : Designation} (h : d.Writable) : ∀ a ∈ d.arguments, IsTidy a := by
  cases d with
  | bulkInsert table columns =>
    obtain ⟨htable, hne, hcolumns⟩ := h
    rintro a ⟨⟩
    have hjoined := isTidy_joined hne fun c hc => isColumn_of_identifier (hcolumns c hc)
    exact (htable.isTidy fun _ => isBlank_of_isIdentifierChar).spaced hjoined
  | rowsWithKey columns =>
    rintro a ⟨⟩
    exact isTidy_joined h.1 h.2
  | rowsWithIndex columns =>
    rintro a ⟨⟩
    exact isTidy_joined h.1 h.2
  | plain word => nofun

/-- A written designation is read again. -/
theorem designation?_line {d : Designation} (h : d.Writable) :
    designation? d.line = some (d.kind, d.arguments) := by
  unfold line
  cases harguments : d.arguments with
  | none => exact designation?_plain h.kind
  | some arguments => exact designation?_arguments h.kind (h.arguments arguments harguments)

/-- Written arguments give the designation again. -/
theorem ofArguments_arguments {d : Designation} (h : d.Writable) :
    ofArguments d.kind d.arguments = .ok d := by
  cases d with
  | bulkInsert table columns =>
    obtain ⟨ht, hne, hcolumns⟩ := h
    have hread := bulkInsertArguments?_spaced ht (isRun_joined hne hcolumns)
    have hsplit := splitColumns_joined hne fun c hc => isColumn_of_identifier (hcolumns c hc)
    simp only [ofArguments, kind, arguments, Option.getD_some, hread, hsplit, if_true]
  | rowsWithKey columns =>
    have htrim := (isTidy_joined h.1 h.2).trimmed
    have hkind : "rows_with_key" ≠ "bulk_insert" := by decide
    simp only [ofArguments, kind, arguments, Option.getD_some, htrim, hkind, if_false, if_true,
      String.ofList_toList, splitColumns_joined h.1 h.2]
  | rowsWithIndex columns =>
    have htrim := (isTidy_joined h.1 h.2).trimmed
    have hkind : "rows_with_index" ≠ "bulk_insert" := by decide
    have hkind' : "rows_with_index" ≠ "rows_with_key" := by decide
    simp only [ofArguments, kind, arguments, Option.getD_some, htrim, hkind, hkind', if_false,
      if_true, String.ofList_toList, splitColumns_joined h.1 h.2]
  | plain word =>
    have hkinds := h.2
    simp only [columnKinds, List.mem_cons, List.not_mem_nil, or_false, not_or] at hkinds
    obtain ⟨hbulk, hkey, hindex⟩ := hkinds
    simp only [ofArguments, kind, arguments, hbulk, hkey, hindex, if_false]
    rfl

end Designation

namespace ListParameter

/-- The list formats that can be written in a directive. -/
@[mk_iff]
structure Writable (p : ListParameter) : Prop where
  name : IsRun Text.isWord p.name
  listType : IsRun Text.isWord p.listType
  delimiter : DirectiveLine.isMark p.delimiter = true
  enclosure : DirectiveLine.isMark p.enclosure = true
  escape : DirectiveLine.isMark p.escape = true

instance : DecidablePred Writable := fun p => decidable_of_iff' _ (writable_iff p)

/-- The directive for a list format. -/
def line (p : ListParameter) : String :=
  DirectiveLine.comment "param" (p.name ++ " " ++
    (p.listType ++ String.ofList [' ', p.delimiter, ' ', p.enclosure, ' ', p.escape]))

open DirectiveLine in
/-- A written parameter is read again. -/
theorem listParameter?_line {p : ListParameter} (h : p.Writable) :
    listParameter? p.line = some p := by
  have hcomment := afterComment?_comment "param" (by decide) (p.name ++ " " ++
    (p.listType ++ String.ofList [' ', p.delimiter, ' ', p.enclosure, ' ', p.escape]))
  rw [toList_spaced, String.toList_append, String.toList_ofList] at hcomment
  have hname := word?_append h.name (' ' :: (p.listType.toList ++
    [' ', p.delimiter, ' ', p.enclosure, ' ', p.escape])) (by rintro c ⟨⟩; decide)
  have htype := word?_append h.listType
    [' ', p.delimiter, ' ', p.enclosure, ' ', p.escape] (by rintro c ⟨⟩; decide)
  have hhead : ∀ {word : String} (rest : List Char), IsRun Text.isWord word →
      ∀ c ∈ (word.toList ++ rest).head?, Text.isBlank c = false :=
    fun rest hword c hc => isBlank_of_isWord (hword.head_append rest c hc)
  -- the format is there, since its first mark is no white space
  have hmarks : [' ', p.delimiter, ' ', p.enclosure, ' ', p.escape].all Text.isBlank = false := by
    simp [isBlank_of_isMark h.delimiter]
  simp only [listParameter?, line, hcomment, Option.bind_eq_bind, Option.bind_some,
    Text.trimStart_space (hhead _ h.name), hname, Text.afterBlanks?_space (hhead _ h.listType),
    htype, hmarks, marks?_spaced h.delimiter h.enclosure h.escape, Bool.false_eq_true, if_false,
    String.ofList_toList]

end ListParameter

end StoredRoutines
