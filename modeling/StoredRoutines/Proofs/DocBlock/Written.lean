import StoredRoutines.Proofs.DocBlock.Extent

/-!
# Written doc comments

A doc block that is laid out on the lines of a comment is read back from it: its short description,
the paragraphs of its long one, and its parameters, whatever other tags stand between them and
however their descriptions are wrapped.

## Main definitions

- `DocBlock.IsPiece`, `DocBlock.IsProse` — what may stand on a line of a comment
- `DocBlock.Tag`, `DocBlock.Layout` — a doc block and how it is spread over lines
- `DocBlock.Layout.print` — the lines of the comment

## Main results

- `DocBlock.Layout.extract_print` — the doc block is read back
-/

namespace StoredRoutines.DocBlock

open Signature (isOnLine)
open Text (isBlank)

/-! ### Pieces -/

/-- A text that can stand on a line of a comment. -/
@[mk_iff]
structure IsPiece (s : List Char) : Prop where
  ne_nil : s ≠ []
  trim_eq : Text.trim s = s
  not_closes : ¬ closer <:+ s

instance : DecidablePred IsPiece := fun s => decidable_of_iff' _ (isPiece_iff s)

/-- A text that can stand on a line where no tag starts. -/
@[mk_iff]
structure IsProse (s : List Char) : Prop where
  isPiece : IsPiece s
  not_tag : isTagLine s = false

instance : DecidablePred IsProse := fun s => decidable_of_iff' _ (isProse_iff s)

/-- The lines where no tag starts. -/
abbrev Prose : Type := {s : List Char // IsProse s}

/-- A closer does not reach over a blank. -/
theorem not_closes_append {t : List Char} (hne : t ≠ []) (ht : ¬ closer <:+ t) (s : List Char) :
    ¬ closer <:+ s ++ ' ' :: t := by
  intro hcloses
  have hsuffix : t <:+ s ++ ' ' :: t := (List.suffix_cons ' ' t).trans (List.suffix_append _ _)
  by_cases hlength : closer.length ≤ t.length
  · exact ht (List.suffix_of_suffix_length_le hcloses hsuffix hlength)
  · have hpos := List.length_pos_iff.2 hne
    have hone : t.length = 1 := by
      change ¬ 2 ≤ t.length at hlength
      omega
    obtain ⟨c, rfl⟩ := List.length_eq_one_iff.1 hone
    obtain ⟨front, hfront⟩ := hcloses
    have hend := (List.append_inj' hfront rfl).2
    cases hend

theorem IsPiece.append {s t : List Char} (hs : IsPiece s) (ht : IsPiece t) :
    IsPiece (s ++ ' ' :: t) where
  ne_nil := List.append_ne_nil_of_left_ne_nil hs.ne_nil _
  trim_eq := by
    rw [Text.trim_eq_self_iff, List.head?_append_of_ne_nil _ hs.ne_nil,
      List.getLast?_append_of_ne_nil _ (List.cons_ne_nil _ _),
      List.getLast?_cons_of_ne_nil ht.ne_nil]
    exact ⟨(Text.trim_eq_self_iff.1 hs.trim_eq).1, (Text.trim_eq_self_iff.1 ht.trim_eq).2⟩
  not_closes := not_closes_append ht.ne_nil ht.not_closes s

/-- Pieces may share a line. -/
theorem IsPiece.intercalate {pieces : List (List Char)} (hne : pieces ≠ [])
    (h : ∀ piece ∈ pieces, IsPiece piece) : IsPiece (List.intercalate [' '] pieces) := by
  induction pieces with
  | nil => exact absurd rfl hne
  | cons piece rest ih =>
    obtain ⟨hpiece, hrest⟩ := List.forall_mem_cons.1 h
    cases rest with
    | nil => rwa [List.intercalate_singleton]
    | cons next rest =>
      rw [List.intercalate_cons_cons, List.append_assoc, List.singleton_append]
      exact hpiece.append (ih (List.cons_ne_nil _ _) hrest)

/-! ### Decorated lines -/

/-- A line of a comment: an asterisk and what stands behind it. -/
def decorated (s : List Char) : String :=
  if s.isEmpty then " *" else String.ofList (" * ".toList ++ s)

theorem dropClosers_eq_self {s : List Char} (h : ¬ closer <:+ s) : dropClosers s = s := by
  rw [dropClosers, dropClosersReversed.eq_def]
  split
  next rest hreverse =>
    refine absurd ?_ h
    rw [← List.reverse_reverse s, hreverse]
    exact ⟨rest.reverse, by simp [closer]⟩
  next => exact List.reverse_reverse s

section Decorated

variable {s : List Char}

theorem toList_decorated (h : s ≠ []) : (decorated s).toList = ' ' :: '*' :: ' ' :: s := by
  rw [decorated, if_neg (by simpa using h), String.toList_ofList]
  rfl

/-- The asterisk of a line is a piece like those behind it. -/
theorem IsPiece.starred (h : IsPiece s) : IsPiece ('*' :: ' ' :: s) := by
  have hstar : IsPiece ['*'] := by decide
  exact hstar.append h

theorem trim_decorated (h : IsPiece s) : Text.trim (decorated s).toList = '*' :: ' ' :: s := by
  calc Text.trim (decorated s).toList = Text.trim ([' '] ++ '*' :: ' ' :: s) := by
        rw [toList_decorated h.ne_nil, List.singleton_append]
    _ = Text.trim ('*' :: ' ' :: s) := Text.trim_blank_append (by decide) _
    _ = '*' :: ' ' :: s := h.starred.trim_eq

theorem closes_decorated (h : s = [] ∨ IsPiece s) : closes (decorated s) = false := by
  rcases h with rfl | h
  · decide
  · rw [closes, trim_decorated h, ← Bool.not_eq_true, List.isSuffixOf_iff_suffix]
    exact h.starred.not_closes

theorem undecorated_decorated (h : s = [] ∨ IsPiece s) : undecorated (decorated s) = s := by
  rcases h with rfl | h
  · decide
  · rw [undecorated, trim_decorated h, dropOpeners.eq_def]
    change Text.trim (dropAsterisk (Text.trim (dropClosers ('*' :: ' ' :: s)))) = s
    rw [dropClosers_eq_self h.starred.not_closes, h.starred.trim_eq]
    change Text.trim ([' '] ++ s) = s
    rw [Text.trim_blank_append (by decide), h.trim_eq]

end Decorated

/-! ### Paragraphs -/

theorem paragraphsFrom_append {lines : List (List Char)} (h : ∀ line ∈ lines, line ≠ [])
    (current rest : List (List Char)) :
    paragraphsFrom current (lines ++ rest) = paragraphsFrom (current ++ lines) rest := by
  induction lines generalizing current with
  | nil => rw [List.nil_append, List.append_nil]
  | cons line lines ih =>
    obtain ⟨hline, hlines⟩ := List.forall_mem_cons.1 h
    have hnot : ¬ line.isEmpty = true := by simpa using hline
    rw [List.cons_append, paragraphsFrom, if_neg hnot, ih hlines, List.append_assoc,
      List.singleton_append]

/-- Empty lines end the current paragraph. -/
theorem paragraphsFrom_replicate (current : List (List Char)) (gap : Nat) :
    paragraphsFrom current (List.replicate gap []) = if current.isEmpty then [] else [current] := by
  induction gap generalizing current with
  | zero => rfl
  | succ gap ih =>
    rw [List.replicate_succ, paragraphsFrom, if_pos List.isEmpty_nil, ih,
      if_pos List.isEmpty_nil]

/-- A paragraph on its lines. -/
structure Paragraph where
  /-- The first line. -/
  first : Prose
  /-- The lines below. -/
  more : List Prose

/-- The lines of a paragraph. -/
def Paragraph.lines (p : Paragraph) : List (List Char) :=
  p.first.1 :: p.more.map (·.1)

theorem Paragraph.isProse_lines (p : Paragraph) : ∀ line ∈ p.lines, IsProse line := by
  rw [lines, List.forall_mem_cons, List.forall_mem_map]
  exact ⟨p.first.2, fun line _ => line.2⟩

/-- Paragraphs with an empty line above each of them, and more empty lines below. -/
theorem paragraphsFrom_flatMap (paragraphs : List Paragraph) {current : List (List Char)}
    (hcurrent : current ≠ []) (gap : Nat) :
    paragraphsFrom current (paragraphs.flatMap (fun p => [] :: p.lines) ++ List.replicate gap []) =
      current :: paragraphs.map Paragraph.lines := by
  have hnot : ¬ current.isEmpty = true := by simpa using hcurrent
  induction paragraphs generalizing current with
  | nil =>
    rw [List.flatMap_nil, List.nil_append, paragraphsFrom_replicate, if_neg hnot, List.map_nil]
  | cons p rest ih =>
    have hlines : ∀ line ∈ p.lines, line ≠ [] :=
      fun line hline => (p.isProse_lines line hline).isPiece.ne_nil
    have hne : p.lines ≠ [] := List.cons_ne_nil _ _
    rw [List.flatMap_cons, List.cons_append, List.cons_append, paragraphsFrom,
      if_pos List.isEmpty_nil, if_neg hnot, List.append_assoc, paragraphsFrom_append hlines,
      List.nil_append, ih hne (by simpa using hne), List.map_cons]

/-! ### Tags -/

/-- A text that can be the name of a parameter. -/
@[mk_iff]
structure IsName (s : List Char) : Prop where
  isPiece : IsPiece s
  solid : ∀ c ∈ s, isBlank c = false

instance : DecidablePred IsName := fun s =>
  decidable_of_iff (IsPiece s ∧ s.all (fun c => !isBlank c) = true) (by simp [isName_iff])

/-- A text that starts a tag, but not a `@param` tag. -/
@[mk_iff]
structure IsOtherTag (s : List Char) : Prop where
  isPiece : IsPiece s
  isTagLine : isTagLine s = true
  word_ne : (s.takeWhile fun c => !isBlank c) ≠ "@param".toList

instance : DecidablePred IsOtherTag := fun s => decidable_of_iff' _ (isOtherTag_iff s)

/-- A tag with the lines that continue it. -/
inductive Tag
  | param (name : {s // IsName s}) (text : Option {s // IsPiece s}) (more : List Prose)
  | other (head : {s // IsOtherTag s}) (more : List Prose)

namespace Tag

/-- The line where the tag starts. -/
def head : Tag → List Char
  | param name text _ =>
    List.intercalate [' '] ("@param".toList :: name.1 :: text.toList.map (·.1))
  | other head _ => head.1

/-- The lines that continue the tag. -/
def more : Tag → List (List Char)
  | param _ _ more => more.map (·.1)
  | other _ more => more.map (·.1)

/-- The lines of the tag. -/
def lines (tag : Tag) : List (List Char) :=
  tag.head :: tag.more

/-- The documented parameter. The lines of its description are joined by blanks. -/
def parameter? : Tag → Option DocParameter
  | param name text more =>
    some ⟨String.ofList name.1,
      String.ofList (List.intercalate [' '] (text.toList.map (·.1) ++ more.map (·.1)))⟩
  | other _ _ => none

theorem isPiece_head (tag : Tag) : IsPiece tag.head := by
  cases tag with
  | param name text more =>
    apply IsPiece.intercalate (List.cons_ne_nil _ _)
    rw [List.forall_mem_cons, List.forall_mem_cons, List.forall_mem_map]
    exact ⟨by decide +kernel, name.2.isPiece, fun piece _ => piece.2⟩
  | other head more => exact head.2.isPiece

theorem isTagLine_head (tag : Tag) : isTagLine tag.head = true := by
  cases tag with
  | param name text more =>
    rw [head, List.intercalate_cons_cons]
    rfl
  | other head more => exact head.2.isTagLine

theorem isProse_more (tag : Tag) : ∀ line ∈ tag.more, IsProse line := by
  cases tag with
  | param name text more => exact List.forall_mem_map.2 fun line _ => line.2
  | other head more => exact List.forall_mem_map.2 fun line _ => line.2

theorem isPiece_lines (tag : Tag) : ∀ line ∈ tag.lines, IsPiece line :=
  List.forall_mem_cons.2
    ⟨tag.isPiece_head, fun line hline => (tag.isProse_more line hline).isPiece⟩

end Tag

theorem tagsFrom_append {more : List (List Char)} (h : ∀ line ∈ more, IsProse line)
    (tag : List Char) (rest : List (List Char)) :
    tagsFrom tag (more ++ rest) = tagsFrom (List.intercalate [' '] (tag :: more)) rest := by
  induction more generalizing tag with
  | nil => rw [List.nil_append, List.intercalate_singleton]
  | cons line more ih =>
    obtain ⟨hline, hmore⟩ := List.forall_mem_cons.1 h
    have hnot : ¬ line.isEmpty = true := by simpa using hline.isPiece.ne_nil
    rw [List.cons_append, tagsFrom, hline.not_tag, if_neg Bool.false_ne_true, if_neg hnot, ih hmore,
      Text.intercalate_cons, Text.intercalate_cons, List.flatMap_cons, List.append_assoc]

/-- Tags above the last line of a comment. -/
theorem tagsFrom_flatMap (tag : List Char) (tags : List Tag) :
    tagsFrom tag (tags.flatMap Tag.lines ++ [[]]) =
      tag :: tags.map fun tag => List.intercalate [' '] tag.lines := by
  induction tags generalizing tag with
  | nil => rfl
  | cons next rest ih =>
    rw [List.flatMap_cons, List.append_assoc, Tag.lines, List.cons_append, tagsFrom,
      next.isTagLine_head, if_pos rfl, tagsFrom_append next.isProse_more, ih, List.map_cons,
      Tag.lines]

/-- What is joined to a text begins with a blank. -/
theorem not_isBlank_head (pieces : List (List Char)) :
    ∀ c ∈ (pieces.flatMap (' ' :: ·)).head?, (!isBlank c) = false := by
  cases pieces with
  | nil => nofun
  | cons piece rest =>
    rintro c ⟨⟩
    decide

/-- A `@param` tag on one line. -/
theorem parameter?_param {name : List Char} (hname : IsName name) {pieces : List (List Char)}
    (h : ∀ piece ∈ pieces, IsPiece piece) :
    DocBlock.parameter? (List.intercalate [' '] ("@param".toList :: name :: pieces)) =
      some ⟨String.ofList name, String.ofList (List.intercalate [' '] pieces)⟩ := by
  have htrim : Text.trim (List.intercalate [' '] (name :: pieces)) =
      List.intercalate [' '] (name :: pieces) := by
    refine (IsPiece.intercalate (List.cons_ne_nil _ _) ?_).trim_eq
    exact List.forall_mem_cons.2 ⟨hname.isPiece, h⟩
  have hsolid : ∀ c ∈ name, (!isBlank c) = true := by
    intro c hc
    rw [hname.solid c hc]
    rfl
  have hdescription : Text.trim ((pieces.flatMap (' ' :: ·)).drop 1) =
      List.intercalate [' '] pieces := by
    cases pieces with
    | nil => rfl
    | cons piece rest =>
      rw [Text.intercalate_cons]
      have hpieces := (IsPiece.intercalate (List.cons_ne_nil piece rest) h).trim_eq
      rwa [Text.intercalate_cons] at hpieces
  -- the name ends at the first blank, and what follows is the description
  obtain ⟨htake, hdrop⟩ := Text.span_append hsolid _ (not_isBlank_head pieces)
  have hprefix : "@param".toList.isPrefixOf?
      (List.intercalate [' '] ("@param".toList :: name :: pieces)) =
        some (' ' :: List.intercalate [' '] (name :: pieces)) := by
    rw [List.intercalate_cons_cons, List.append_assoc, List.singleton_append]
    exact List.isPrefixOf?_eq_some_iff_append_eq.2 rfl
  have hne : ¬ name.isEmpty = true := by simpa using hname.isPiece.ne_nil
  rw [DocBlock.parameter?, hprefix]
  change (if isBlank ' ' = true then _ else _) = _
  rw [if_pos (by decide), htrim, Text.intercalate_cons]
  simp only [htake, hdrop, hdescription, if_neg hne]

theorem takeWhile_append {p : Char → Bool} {t : List Char} (ht : ∀ c ∈ t.head?, p c = false)
    (s : List Char) : (s ++ t).takeWhile p = s.takeWhile p := by
  have hnone : t.takeWhile p = [] := (Text.span_append (List.forall_mem_nil _) t ht).1
  rw [List.takeWhile_append]
  split
  next hlength =>
    rw [hnone, List.append_nil]
    exact ((List.takeWhile_prefix p).eq_of_length hlength).symm
  next => rfl

theorem parameter?_eq_none {tag : List Char}
    (h : (tag.takeWhile fun c => !isBlank c) ≠ "@param".toList) :
    DocBlock.parameter? tag = none := by
  rw [DocBlock.parameter?]
  split
  next c rest hprefix =>
    split
    next hblank =>
      refine absurd ?_ h
      rw [← List.isPrefixOf?_eq_some_iff_append_eq.1 hprefix]
      refine (Text.span_append (List.all_eq_true.1 (by decide)) _ ?_).1
      rintro c' ⟨⟩
      rw [hblank]
      rfl
    next => rfl
  next => rfl

/-- The parameter of a tag is read from its lines. -/
theorem Tag.parameter?_lines (tag : Tag) :
    DocBlock.parameter? (List.intercalate [' '] tag.lines) = tag.parameter? := by
  cases tag with
  | param name text more =>
    have hpieces : ∀ piece ∈ text.toList.map (·.1) ++ more.map (·.1), IsPiece piece := by
      rw [List.forall_mem_append, List.forall_mem_map, List.forall_mem_map]
      exact ⟨fun piece _ => piece.2, fun line _ => line.2.isPiece⟩
    rw [lines, head, Tag.more, Text.intercalate_intercalate]
    exact parameter?_param name.2 hpieces
  | other head more =>
    apply parameter?_eq_none
    rw [lines, Tag.head, Text.intercalate_cons, takeWhile_append (not_isBlank_head _)]
    exact head.2.word_ne

/-! ### Layouts -/

/-- A doc block that is spread over the lines of a comment, with other tags between its
    parameters. -/
structure Layout where
  /-- The short description. -/
  short : Prose
  /-- The paragraphs of the long description. -/
  long : List Paragraph
  /-- The number of empty lines above the tags. -/
  gap : Nat
  /-- The tags. -/
  tags : List Tag

namespace Layout

/-- The lines above the tags, with `gap` empty lines below the last paragraph. -/
def description (layout : Layout) (gap : Nat) : List (List Char) :=
  layout.short.1 :: (layout.long.flatMap (fun p => [] :: p.lines) ++ List.replicate gap [])

/-- The texts on the lines between the opener and the closer. -/
def body (layout : Layout) : List (List Char) :=
  layout.description layout.gap ++ layout.tags.flatMap Tag.lines

/-- The lines of the comment. -/
def print (layout : Layout) : List String :=
  "/**" :: layout.body.map decorated ++ [" */"]

/-- The doc block that is laid out. -/
def docBlock (layout : Layout) : DocBlock where
  short := String.ofList layout.short.1
  long := String.ofList
    (List.intercalate ['\n', '\n'] (layout.long.map fun p => List.intercalate ['\n'] p.lines))
  parameters := layout.tags.filterMap Tag.parameter?

variable (layout : Layout)

theorem isProse_description (gap : Nat) :
    ∀ line ∈ layout.description gap, line = [] ∨ IsProse line := by
  rw [description, List.forall_mem_cons, List.forall_mem_append]
  refine ⟨.inr layout.short.2, ?_, ?_⟩
  · intro line hline
    obtain ⟨p, -, hp⟩ := List.mem_flatMap.1 hline
    rcases List.mem_cons.1 hp with rfl | hp
    · exact .inl rfl
    · exact .inr (p.isProse_lines line hp)
  · intro line hline
    exact .inl (List.eq_of_mem_replicate hline)

theorem isPiece_body : ∀ line ∈ layout.body, line = [] ∨ IsPiece line := by
  rw [body, List.forall_mem_append]
  constructor
  · intro line hline
    exact (layout.isProse_description _ line hline).imp_right IsProse.isPiece
  · intro line hline
    obtain ⟨tag, -, htag⟩ := List.mem_flatMap.1 hline
    exact .inr (tag.isPiece_lines line htag)

theorem not_isTagLine (gap : Nat) :
    ∀ line ∈ [] :: layout.description gap, (!isTagLine line) = true := by
  rw [List.forall_mem_cons]
  refine ⟨rfl, ?_⟩
  intro line hline
  rcases layout.isProse_description gap line hline with rfl | hprose
  · rfl
  · rw [hprose.not_tag]
    rfl

/-- The paragraphs of a description are read again. -/
theorem paragraphs_description (gap : Nat) :
    paragraphs ([] :: layout.description gap) =
      [layout.short.1] :: layout.long.map Paragraph.lines := by
  have hshort : ¬ layout.short.1.isEmpty = true := by
    simpa using layout.short.2.isPiece.ne_nil
  rw [paragraphs, description, paragraphsFrom, if_pos List.isEmpty_nil, if_pos List.isEmpty_nil,
    paragraphsFrom, if_neg hshort]
  exact paragraphsFrom_flatMap layout.long (List.cons_ne_nil _ _) gap

/-- The description ends at the first tag. -/
theorem span_body :
    (∃ gap, ([] :: layout.body ++ [[]]).takeWhile (fun line => !isTagLine line) =
        [] :: layout.description gap) ∧
      DocBlock.tags (([] :: layout.body ++ [[]]).dropWhile fun line => !isTagLine line) =
        layout.tags.map fun tag => List.intercalate [' '] tag.lines := by
  cases htags : layout.tags with
  | nil =>
    -- the line of the closer counts as one more empty line
    have hbody : [] :: layout.body ++ [[]] = [] :: layout.description (layout.gap + 1) := by
      simp [body, description, htags, List.replicate_succ']
    have hall := layout.not_isTagLine (layout.gap + 1)
    rw [hbody, List.dropWhile_eq_nil_iff.2 hall]
    exact ⟨⟨_, List.takeWhile_eq_self_iff.2 hall⟩, rfl⟩
  | cons tag rest =>
    have hbody : [] :: layout.body ++ [[]] = ([] :: layout.description layout.gap) ++
        tag.head :: (tag.more ++ (rest.flatMap Tag.lines ++ [[]])) := by
      simp [body, htags, Tag.lines]
    have hall := layout.not_isTagLine layout.gap
    rw [hbody, List.takeWhile_append_of_pos hall, List.dropWhile_append_of_pos hall,
      List.takeWhile_cons, List.dropWhile_cons, tag.isTagLine_head]
    refine ⟨⟨layout.gap, List.append_nil _⟩, ?_⟩
    change tagsFrom tag.head _ = _
    rw [tagsFrom_append tag.isProse_more, tagsFrom_flatMap, List.map_cons, Tag.lines]

theorem ofBody_body : ofBody ([] :: layout.body ++ [[]]) = layout.docBlock := by
  obtain ⟨⟨gap, htake⟩, htags⟩ := layout.span_body
  have hparameters : (layout.tags.map fun tag => List.intercalate [' '] tag.lines).filterMap
      DocBlock.parameter? = layout.tags.filterMap Tag.parameter? := by
    rw [List.filterMap_map]
    exact List.filterMap_congr fun tag _ => tag.parameter?_lines
  rw [ofBody, htake, htags, layout.paragraphs_description, hparameters, docBlock, List.headD_cons,
    List.intercalate_singleton, List.tail_cons, List.map_map]
  rfl

/-- The printed lines without their decoration are the body. -/
theorem undecorated_print : layout.print.map undecorated = [] :: layout.body ++ [[]] := by
  have hsame : ∀ line ∈ layout.body, (undecorated ∘ decorated) line = id line := by
    intro line hline
    rw [Function.comp_apply, undecorated_decorated (layout.isPiece_body line hline), id]
  have hfirst : undecorated "/**" = [] := by decide
  have hlast : undecorated " */" = [] := by decide
  rw [print, List.map_append, List.map_cons, List.map_map, List.map_congr_left hsame, List.map_id,
    hfirst, List.map_singleton, hlast]

/-- No line of a printed comment but the last one closes it. -/
theorem closes_print : ∀ line ∈ "/**" :: layout.body.map decorated, closes line = false := by
  rw [List.forall_mem_cons, List.forall_mem_map]
  exact ⟨by decide, fun line hline => closes_decorated (layout.isPiece_body line hline)⟩

/-- A doc block that is laid out on the lines of a comment is the one of these lines, whatever
    stands below them. -/
theorem extract_print (h : ∀ line ∈ layout.print, isOnLine line = false) (below : List String) :
    extract (layout.print ++ below) = layout.docBlock := by
  have hdrop : layout.print.dropWhile (fun line => !opens line) = layout.print := by
    rw [print, List.cons_append, List.dropWhile_cons]
    rfl
  have hclosed : IsClosed layout.print := by
    rw [IsClosed, hdrop]
    exact ⟨" */", List.mem_append_right _ (List.mem_singleton_self _), by decide⟩
  have hcomment : comment layout.print = layout.print := by
    rw [comment, header_eq_self h, hdrop, print, throughClosing_append_of_open layout.closes_print]
    rfl
  calc extract (layout.print ++ below)
    _ = ofBody ((comment (layout.print ++ below)).map undecorated) := extract_eq _
    _ = ofBody (layout.print.map undecorated) := by
        rw [comment_append_of_isClosed h hclosed, hcomment]
    _ = ofBody ([] :: layout.body ++ [[]]) := by rw [layout.undecorated_print]
    _ = layout.docBlock := layout.ofBody_body

/-- A doc block with every kind of line. -/
def orderDetails : Layout where
  short := ⟨"* Selects the details of an order.".toList, by decide +kernel⟩
  long :=
    [⟨⟨"Only orders of the current company".toList, by decide +kernel⟩,
        [⟨"/** are visible.".toList, by decide +kernel⟩]⟩,
      ⟨⟨"See SPEC 4.2.".toList, by decide +kernel⟩, []⟩]
  gap := 1
  tags :=
    [.param ⟨"p_ord_id".toList, by decide +kernel⟩ none [],
      .other ⟨"@parameter bogus".toList, by decide +kernel⟩
        [⟨"and more".toList, by decide +kernel⟩],
      .param ⟨"p_cmp_id".toList, by decide +kernel⟩
        (some ⟨"The ID of the".toList, by decide +kernel⟩)
        [⟨"company.".toList, by decide +kernel⟩]]

/-- The comment of the example is read as it is written, with a star and an opener in its text. -/
theorem extract_print_orderDetails :
    (∀ line ∈ orderDetails.print, isOnLine line = false) ∧
      extract (orderDetails.print ++
          ["create procedure order_get_details(", "/** @param other */", "begin"]) =
        ⟨"* Selects the details of an order.",
          "Only orders of the current company\n/** are visible.\n\nSee SPEC 4.2.",
          [⟨"p_ord_id", ""⟩, ⟨"p_cmp_id", "The ID of the company."⟩]⟩ := by
  have hlines : ∀ line ∈ orderDetails.print, isOnLine line = false := by decide +kernel
  have hdoc : orderDetails.docBlock =
      ⟨"* Selects the details of an order.",
        "Only orders of the current company\n/** are visible.\n\nSee SPEC 4.2.",
        [⟨"p_ord_id", ""⟩, ⟨"p_cmp_id", "The ID of the company."⟩]⟩ := by decide +kernel
  exact ⟨hlines, (extract_print orderDetails hlines _).trans hdoc⟩

end Layout

end StoredRoutines.DocBlock
