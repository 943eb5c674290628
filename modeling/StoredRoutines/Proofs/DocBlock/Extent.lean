import StoredRoutines.DocBlock
import StoredRoutines.Proofs.Signature

/-!
# The extent of a doc comment

A doc comment is read from the line where it opens down to the first line that ends with a closer.
What stands below that line is no part of the doc block, and neither is what stands below the first
line with a signature. A comment whose closer has something behind it goes on, and so it does past a
signature that is spread over several lines.

## Main definitions

- `DocBlock.comment` — the lines that are read
- `DocBlock.IsClosed` — lines in which a comment has ended
- `DocBlock.EndsAt` — lines in which the first closer ends the last line but for what is behind it

## Main results

- `DocBlock.extract_append_iff` — what stands below counts exactly if no comment has ended above
- `DocBlock.extract_above_signature` — the doc block and the lines above the first signature
- `DocBlock.extract_behind_closer` — the doc block and the first closer
-/

namespace StoredRoutines.DocBlock

open Signature (isOnLine Begins)

variable {lines more : List String} {line : String}

/-! ### The lines that are read -/

/-- The lines above the first one with a signature. -/
def header (lines : List String) : List String :=
  lines.takeWhile fun line => !isOnLine line

/-- The lines of the first doc comment above the signature. -/
def comment (lines : List String) : List String :=
  throughClosing ((header lines).dropWhile fun line => !opens line)

theorem extract_eq (lines : List String) :
    extract lines = ofBody ((comment lines).map undecorated) := by
  rw [extract, commentLines, comment, header]
  cases (lines.takeWhile fun line => !isOnLine line).dropWhile fun line => !opens line with
  | nil => rfl
  | cons line rest => rfl

theorem header_append (h : ∀ line ∈ lines, isOnLine line = false) (more : List String) :
    header (lines ++ more) = lines ++ header more := by
  apply List.takeWhile_append_of_pos
  intro line hline
  rw [h line hline]
  rfl

theorem header_eq_self (h : ∀ line ∈ lines, isOnLine line = false) : header lines = lines := by
  have happend := header_append h []
  have hnil : header [] = [] := rfl
  rwa [hnil, List.append_nil] at happend

theorem throughClosing_singleton (line : String) : throughClosing [line] = [line] := by
  rw [throughClosing]
  split <;> rfl

/-- Behind a closing line nothing is read. -/
theorem throughClosing_append_of_closes {comment : List String}
    (h : ∃ line ∈ comment, closes line = true) (more : List String) :
    throughClosing (comment ++ more) = throughClosing comment := by
  induction comment with
  | nil =>
    obtain ⟨line, hline, -⟩ := h
    cases hline
  | cons first rest ih =>
    rw [List.cons_append, throughClosing, throughClosing]
    by_cases hfirst : closes first = true
    · rw [if_pos hfirst, if_pos hfirst]
    · obtain ⟨line, hline, hcloses⟩ := h
      have hrest : line ∈ rest := by
        rcases List.mem_cons.1 hline with rfl | hline
        · exact absurd hcloses hfirst
        · exact hline
      rw [if_neg hfirst, if_neg hfirst, ih ⟨line, hrest, hcloses⟩]

/-- An open comment goes on in the following lines. -/
theorem throughClosing_append_of_open {comment : List String}
    (h : ∀ line ∈ comment, closes line = false) (more : List String) :
    throughClosing (comment ++ more) = comment ++ throughClosing more := by
  induction comment with
  | nil => rfl
  | cons first rest ih =>
    obtain ⟨hfirst, hrest⟩ := List.forall_mem_cons.1 h
    rw [List.cons_append, throughClosing, hfirst, if_neg Bool.false_ne_true, ih hrest,
      List.cons_append]

/-! ### Comments that have ended -/

/-- A comment opens in these lines, and one of them from there on ends with a closer. -/
def IsClosed (lines : List String) : Prop :=
  ∃ line ∈ lines.dropWhile fun line => !opens line, closes line = true

theorem dropWhile_opens_ne_nil (h : ∃ line ∈ lines, opens line = true) :
    lines.dropWhile (fun line => !opens line) ≠ [] := by
  obtain ⟨line, hline, hopens⟩ := h
  intro hnil
  have hnot := List.dropWhile_eq_nil_iff.1 hnil line hline
  rw [hopens] at hnot
  cases hnot

theorem dropWhile_opens_append (h : ∃ line ∈ lines, opens line = true) (more : List String) :
    (lines ++ more).dropWhile (fun line => !opens line) =
      lines.dropWhile (fun line => !opens line) ++ more := by
  have hne := dropWhile_opens_ne_nil h
  rw [List.dropWhile_append, if_neg (by simpa using hne)]

theorem IsClosed.opens (h : IsClosed lines) : ∃ line ∈ lines, opens line = true := by
  by_contra hnone
  obtain ⟨line, hline, -⟩ := h
  have hnil : lines.dropWhile (fun line => !DocBlock.opens line) = [] := by
    rw [List.dropWhile_eq_nil_iff]
    intro l hl
    simpa using fun hopens => hnone ⟨l, hl, hopens⟩
  rw [hnil] at hline
  cases hline

theorem closes_eq_false (h : ¬ IsClosed lines) :
    ∀ line ∈ lines.dropWhile fun line => !opens line, closes line = false := by
  intro line hline
  by_contra hcloses
  exact h ⟨line, hline, by simpa using hcloses⟩

theorem not_isClosed_append (h : ¬ IsClosed lines)
    (hmore : ∀ line ∈ more, closes line = false) : ¬ IsClosed (lines ++ more) := by
  rintro ⟨line, hline, hcloses⟩
  have hnot : line ∉ more := by
    intro hmem
    rw [hmore line hmem] at hcloses
    cases hcloses
  rw [List.dropWhile_append] at hline
  split at hline
  · exact hnot ((List.dropWhile_suffix _).subset hline)
  · rcases List.mem_append.1 hline with hline | hline
    · exact h ⟨line, hline, hcloses⟩
    · exact hnot hline

/-- What stands below a comment that has ended is not read. -/
theorem comment_append_of_isClosed (h : ∀ line ∈ lines, isOnLine line = false)
    (hclosed : IsClosed lines) (more : List String) : comment (lines ++ more) = comment lines := by
  rw [comment, header_append h, dropWhile_opens_append hclosed.opens,
    throughClosing_append_of_closes hclosed, comment, header_eq_self h]

/-- What stands below an open comment is read. -/
theorem comment_append_of_not_isClosed (h : ∀ line ∈ lines, isOnLine line = false)
    (hopens : ∃ line ∈ lines, opens line = true) (hclosed : ¬ IsClosed lines)
    (more : List String) : comment (lines ++ more) =
      lines.dropWhile (fun line => !opens line) ++ throughClosing (header more) := by
  rw [comment, header_append h, dropWhile_opens_append hopens,
    throughClosing_append_of_open (closes_eq_false hclosed)]

/-! ### Parameters of an open comment -/

theorem tagsFrom_concat {tag t : List Char} (ht : isTagLine t = true) (body : List (List Char)) :
    tagsFrom tag (body ++ [t]) = tagsFrom tag body ++ [t] := by
  induction body generalizing tag with
  | nil => simp only [List.nil_append, tagsFrom, ht, if_true, List.singleton_append]
  | cons first rest ih =>
    rw [List.cons_append, tagsFrom, tagsFrom]
    split
    · rw [ih, List.cons_append]
    · split
      · exact ih
      · exact ih

/-- A tag at the end of a comment is a tag of its own. -/
theorem parameters_concat {t : List Char} (ht : isTagLine t = true) (body : List (List Char)) :
    (ofBody (body ++ [t])).parameters = (ofBody body).parameters ++ (parameter? t).toList := by
  have hdrop : (body ++ [t]).dropWhile (fun line => !isTagLine line) =
      body.dropWhile (fun line => !isTagLine line) ++ [t] := by
    rw [List.dropWhile_append]
    split
    next hempty =>
      rw [List.isEmpty_iff.1 hempty, List.dropWhile_cons, ht]
      rfl
    next => rfl
  have htags : tags (body.dropWhile (fun line => !isTagLine line) ++ [t]) =
      tags (body.dropWhile fun line => !isTagLine line) ++ [t] := by
    cases body.dropWhile fun line => !isTagLine line with
    | nil => rfl
    | cons first rest => exact tagsFrom_concat ht rest
  change (tags _).filterMap parameter? = (tags _).filterMap parameter? ++ _
  rw [hdrop, htags, List.filterMap_append]
  cases hparameter : parameter? t <;> simp [hparameter]

/-- A parameter that is described below an open comment is a parameter of the doc block. -/
theorem parameters_append (h : ∀ line ∈ lines, isOnLine line = false)
    (hopens : ∃ line ∈ lines, opens line = true) (hclosed : ¬ IsClosed lines) {line : String}
    (hline : isOnLine line = false) (htag : isTagLine (undecorated line) = true) :
    (extract (lines ++ [line])).parameters =
      (ofBody ((lines.dropWhile fun line => !opens line).map undecorated)).parameters ++
        (parameter? (undecorated line)).toList := by
  have hheader : header [line] = [line] := header_eq_self (by simpa using hline)
  rw [extract_eq, comment_append_of_not_isClosed h hopens hclosed, hheader,
    throughClosing_singleton, List.map_append, List.map_singleton, parameters_concat htag]

/-- An open comment can be continued in two ways that differ. -/
theorem extract_append_ne (h : ∀ line ∈ lines, isOnLine line = false)
    (hopens : ∃ line ∈ lines, opens line = true) (hclosed : ¬ IsClosed lines) :
    extract (lines ++ ["@param a"]) ≠ extract (lines ++ ["@param b"]) := by
  intro heq
  have hparameters := congrArg DocBlock.parameters heq
  rw [parameters_append h hopens hclosed (by decide) (by decide),
    parameters_append h hopens hclosed (by decide) (by decide)] at hparameters
  exact absurd (List.append_cancel_left hparameters) (by decide +kernel)

/-- What stands below some lines is left out of the doc block exactly if a comment has ended in
    them. -/
theorem extract_append_iff (h : ∀ line ∈ lines, isOnLine line = false)
    (hopens : ∃ line ∈ lines, opens line = true) :
    (∀ more, extract (lines ++ more) = extract lines) ↔ IsClosed lines := by
  constructor
  · intro hsame
    by_contra hclosed
    exact extract_append_ne h hopens hclosed ((hsame _).trans (hsame _).symm)
  · intro hclosed more
    rw [extract_eq, comment_append_of_isClosed h hclosed, ← extract_eq]

/-! ### The lines above the first signature -/

/-- The line of a signature and what is below it do not count. -/
theorem extract_append_signature (h : ∀ line ∈ lines, isOnLine line = false)
    (hline : isOnLine line = true) (below : List String) :
    extract (lines ++ line :: below) = extract lines := by
  have hheader : header (line :: below) = [] := by
    rw [header, List.takeWhile_cons, hline]
    rfl
  rw [extract_eq, comment, header_append h, hheader, List.append_nil, extract_eq, comment,
    header_eq_self h]

theorem exists_below {text : String} {above : List String} {words : List Char}
    {signature : Signature} (h : Begins text above words signature) :
    ∃ below, Source.linesOf text = above ++ below := by
  obtain ⟨before, after, -, rfl⟩ := h
  exact ⟨_, (List.take_append_drop _ _).symm⟩

/-- If the lines above decide for every text, a comment has ended in them: a signature on two lines
    stops nothing, and texts with one go on with different parameters. -/
theorem isClosed_of_extract_eq {text : String} {above : List String} {words : List Char}
    {signature : Signature} (h : Begins text above words signature)
    (hsame : ∀ text' words' other, Begins text' above words' other →
      extract (Source.linesOf text') = extract above) : IsClosed above := by
  by_contra hclosed
  -- the lines are followed by a signature in two parts, and by an opener that nothing closes
  have hlines : ∀ line ∈ above ++ ["-- create", "procedure x", "/**"],
      isOnLine line = false := by
    rw [List.forall_mem_append]
    exact ⟨h.not_isOnLine, by decide⟩
  have hopens : ∃ line ∈ above ++ ["-- create", "procedure x", "/**"], opens line = true :=
    ⟨"/**", by simp, by decide⟩
  have hopen : ¬ IsClosed (above ++ ["-- create", "procedure x", "/**"]) :=
    not_isClosed_append hclosed (by decide)
  -- so no line behind the opener may count
  have hread : ∀ final, Signature.IsWhole final →
      extract (above ++ ["-- create", "procedure x", "/**"] ++ [final]) = extract above := by
    intro final hfinal
    have hmore : ∀ line ∈ ["/**"] ++ [final], Signature.IsWhole line := by
      rw [List.forall_mem_append, List.forall_mem_singleton, List.forall_mem_singleton]
      exact ⟨⟨by decide, by decide⟩, hfinal⟩
    obtain ⟨text', htext', hbegins'⟩ := h.broken hmore
    rw [← hsame text' _ _ hbegins', htext', List.append_assoc]
    rfl
  exact extract_append_ne hlines hopens hopen
    ((hread _ ⟨by decide, by decide⟩).trans (hread _ ⟨by decide, by decide⟩).symm)

/-- The doc block of a text with a signature is that of the lines above the one where the first
    signature begins, if this signature stands on one line. If it may be spread over several lines,
    the lines above decide exactly if a comment has ended in them. -/
theorem extract_above_signature {text : String} {signature : Signature}
    (h : Signature.find? text = some signature) :
    (∃ above words, Begins text above words signature) ∧
      ∀ above words, Begins text above words signature →
        ('\n' ∉ words → extract (Source.linesOf text) = extract above) ∧
          ((∀ text' words' other, Begins text' above words' other →
            extract (Source.linesOf text') = extract above) ↔ IsClosed above) := by
  refine ⟨Signature.find?_eq_some_iff_begins.1 h, ?_⟩
  intro above words hbegins
  have habove := hbegins.not_isOnLine
  refine ⟨?_, isClosed_of_extract_eq hbegins, ?_⟩
  · intro hwords
    obtain ⟨line, below, hlines, hline⟩ := hbegins.isOnLine hwords
    rw [hlines, extract_append_signature habove hline]
  · intro hclosed text' words' other hbegins'
    obtain ⟨below, hlines⟩ := exists_below hbegins'
    rw [hlines, extract_eq, comment_append_of_isClosed habove hclosed, ← extract_eq]

/-- A comment that has ended, a signature on one line, and another comment. -/
def purge : String :=
  "/** Purges. */\ncreate procedure purge()\n/** Internal. */\nbegin\nend\n"

/-- The same with the signature on two lines. -/
def brokenPurge : String :=
  "/** Purges. */\ncreate\nprocedure purge()\n/** Internal. */\nbegin\nend\n"

/-- The signature of the example begins behind a comment of one line. -/
theorem begins_purge :
    Begins purge ["/** Purges. */"] "create procedure purge".toList ⟨.procedure, "purge"⟩ := by
  have hgap : Text.IsRun Text.isBlank " " := by decide
  have hspells : Signature.Spells ⟨.procedure, "purge"⟩ "create procedure purge".toList :=
    Signature.spells_procedure hgap (by decide)
  refine ⟨"/** Purges. */\n".toList, "()\n/** Internal. */\nbegin\nend\n".toList, ?_,
    by decide +kernel⟩
  refine .of_drop (by decide +kernel) hspells ?_ (by decide +kernel)
  rintro c ⟨⟩
  decide

theorem spells_brokenPurge :
    Signature.Spells ⟨.procedure, "purge"⟩ "create\nprocedure purge".toList := by
  have hgap : Text.IsRun Text.isBlank "\n" := by decide
  exact Signature.spells_procedure hgap (by decide)

/-- The broken signature begins behind the same comment. -/
theorem begins_brokenPurge :
    Begins brokenPurge ["/** Purges. */"] "create\nprocedure purge".toList
      ⟨.procedure, "purge"⟩ := by
  refine ⟨"/** Purges. */\n".toList, "()\n/** Internal. */\nbegin\nend\n".toList, ?_,
    by decide +kernel⟩
  refine .of_drop (by decide +kernel) spells_brokenPurge ?_ (by decide +kernel)
  rintro c ⟨⟩
  decide

/-- The comment of the purge is read whatever is below it, though a broken signature does not end
    the header by itself. -/
theorem extract_above_signature_purge :
    Signature.find? purge = some ⟨.procedure, "purge"⟩ ∧
      '\n' ∉ "create procedure purge".toList ∧
      extract (Source.linesOf purge) = extract ["/** Purges. */"] ∧
      IsClosed ["/** Purges. */"] ∧
      extract (Source.linesOf brokenPurge) = extract ["/** Purges. */"] := by
  have hfind : Signature.find? purge = some ⟨.procedure, "purge"⟩ := by decide +kernel
  have hclosed : IsClosed ["/** Purges. */"] := ⟨_, List.mem_singleton_self _, by decide⟩
  obtain ⟨-, habove⟩ := extract_above_signature hfind
  obtain ⟨hline, hdecides⟩ := habove _ _ begins_purge
  exact ⟨hfind, by decide, hline (by decide), hclosed,
    hdecides.2 hclosed _ _ _ begins_brokenPurge⟩

/-- A comment below a signature on two lines becomes the doc block. -/
theorem extract_below_broken_signature :
    (∃ words signature,
      Begins "create\nprocedure purge()\n/** Internal. */\nbegin\nend\n" [] words signature ∧
        Begins "create\nprocedure purge()\nbegin\nend\n" [] words signature) ∧
      extract (Source.linesOf "create\nprocedure purge()\n/** Internal. */\nbegin\nend\n") =
        ⟨"Internal.", "", []⟩ ∧
      extract (Source.linesOf "create\nprocedure purge()\nbegin\nend\n") = empty := by
  refine ⟨⟨"create\nprocedure purge".toList, ⟨.procedure, "purge"⟩, ?_, ?_⟩,
    by decide +kernel, by decide +kernel⟩
  · refine ⟨[], "()\n/** Internal. */\nbegin\nend\n".toList,
      .of_drop (by decide +kernel) spells_brokenPurge ?_ (by decide), rfl⟩
    rintro c ⟨⟩
    decide
  · refine ⟨[], "()\nbegin\nend\n".toList,
      .of_drop (by decide +kernel) spells_brokenPurge ?_ (by decide), rfl⟩
    rintro c ⟨⟩
    decide

/-! ### The first closer of a comment -/

/-- The line that begins with `stem` and goes on with a closer. -/
def closingLine (stem after : List Char) : String :=
  String.ofList (stem ++ (closer ++ after))

/-- The doc comment opens on one of the lines `above`, or on the line below them, and the first
    closer behind its opener is the one that stands behind `stem` on the line below them. -/
inductive EndsAt : List String → List Char → Prop
  | sameLine {above : List String} {lead text : List Char}
      (habove : ∀ line ∈ above, opens line = false) (hlead : lead.all Text.isBlank = true)
      (hfirst : ¬ closer <:+: text ++ ['*']) : EndsAt above (lead ++ (opener ++ text))
  | lineBelow {before inner : List String} {lead text stem : List Char}
      (hbefore : ∀ line ∈ before, opens line = false) (hlead : lead.all Text.isBlank = true)
      (htext : ¬ closer <:+: text) (hinner : ∀ line ∈ inner, ¬ closer <:+: line.toList)
      (hfirst : ¬ closer <:+: stem ++ ['*']) :
      EndsAt (before ++ String.ofList (lead ++ (opener ++ text)) :: inner) stem

variable {above : List String} {stem after : List Char}

theorem opens_ofList {lead text : List Char} (hlead : lead.all Text.isBlank = true) :
    opens (String.ofList (lead ++ (opener ++ text))) = true := by
  have hstart : Text.trimStart (lead ++ (opener ++ text)) = opener ++ text := by
    apply Text.trimStart_append hlead
    rintro c ⟨⟩
    decide
  rw [opens, String.toList_ofList, hstart, List.isPrefixOf_iff_prefix]
  exact List.prefix_append _ _

theorem EndsAt.opens (h : EndsAt above stem) (after : List Char) :
    ∃ line ∈ above ++ [closingLine stem after], opens line = true := by
  cases h with
  | sameLine habove hlead hfirst =>
    refine ⟨_, List.mem_append_right _ (List.mem_singleton_self _), ?_⟩
    rw [closingLine, List.append_assoc, List.append_assoc]
    exact opens_ofList hlead
  | @lineBelow before inner lead text _ hbefore hlead htext hinner hfirst =>
    have hopens : opens (String.ofList (lead ++ (opener ++ text))) = true := opens_ofList hlead
    exact ⟨_, List.mem_append_left _ (List.mem_append_right _ List.mem_cons_self), hopens⟩

theorem trim_closingLine (hafter : after.all Text.isBlank = true) :
    Text.trim (closingLine stem after).toList = Text.trimStart stem ++ closer := by
  rw [closingLine, String.toList_ofList, ← List.append_assoc, Text.trim_append_blank _ hafter]
  exact Text.trim_append_solid stem (by decide) (by simpa [closer] using ⟨rfl, rfl⟩)

theorem closes_closingLine (hafter : after.all Text.isBlank = true) :
    closes (closingLine stem after) = true := by
  rw [closes, trim_closingLine hafter, List.isSuffixOf_iff_suffix]
  exact List.suffix_append _ _

theorem isClosed_concat (hopens : ∃ l ∈ above ++ [line], opens l = true)
    (hcloses : closes line = true) : IsClosed (above ++ [line]) := by
  obtain ⟨front, hfront⟩ : _ <:+ above ++ [line] :=
    List.dropWhile_suffix fun line => !DocBlock.opens line
  have hlast := congrArg List.getLast? hfront
  rw [List.getLast?_append_of_ne_nil _ (dropWhile_opens_ne_nil hopens), List.getLast?_concat]
    at hlast
  exact ⟨line, List.mem_of_mem_getLast? hlast, hcloses⟩

/-- A comment that has not ended above takes in one more line. -/
theorem comment_concat (habove : ∀ line ∈ above, isOnLine line = false)
    (hline : isOnLine line = false) (hopens : ∃ l ∈ above ++ [line], opens l = true)
    (hclosed : ¬ IsClosed above) :
    comment (above ++ [line]) = above.dropWhile (fun line => !opens line) ++ [line] := by
  have hall : ∀ l ∈ above ++ [line], isOnLine l = false := by
    rw [List.forall_mem_append, List.forall_mem_singleton]
    exact ⟨habove, hline⟩
  have hdrop : (above ++ [line]).dropWhile (fun line => !opens line) =
      above.dropWhile (fun line => !opens line) ++ [line] := by
    rw [List.dropWhile_append]
    split
    next hempty =>
      -- nothing has been opened above, so the line itself opens the comment
      have hnone := List.dropWhile_eq_nil_iff.1 (List.isEmpty_iff.1 hempty)
      obtain ⟨l, hl, hl'⟩ := hopens
      have hopensLine : opens line = true := by
        rcases List.mem_append.1 hl with hl | hl
        · have hnot := hnone l hl
          rw [hl'] at hnot
          cases hnot
        · rwa [List.mem_singleton.1 hl] at hl'
      rw [List.isEmpty_iff.1 hempty, List.dropWhile_cons, hopensLine]
      rfl
    next => rfl
  rw [comment, header_eq_self hall, hdrop,
    throughClosing_append_of_open (closes_eq_false hclosed), throughClosing_singleton]

/-- A closer with nothing but white space behind it ends the doc block, and what stands behind and
    below it makes no difference. Behind any other text what stands below counts exactly if the
    closer does not end the line. -/
theorem extract_behind_closer (h : EndsAt above stem)
    (habove : ∀ line ∈ above, isOnLine line = false) :
    (∀ after after' below below', after.all Text.isBlank = true → after'.all Text.isBlank = true →
        isOnLine (closingLine stem after) = false → isOnLine (closingLine stem after') = false →
          extract (above ++ closingLine stem after :: below) =
            extract (above ++ closingLine stem after' :: below')) ∧
      ∀ after, isOnLine (closingLine stem after) = false →
        ((∀ below, extract (above ++ closingLine stem after :: below) =
          extract (above ++ [closingLine stem after])) ↔
            IsClosed (above ++ [closingLine stem after])) := by
  have hlines : ∀ after, isOnLine (closingLine stem after) = false →
      ∀ line ∈ above ++ [closingLine stem after], isOnLine line = false := by
    intro after hline
    rw [List.forall_mem_append, List.forall_mem_singleton]
    exact ⟨habove, hline⟩
  have hbelow : ∀ after, isOnLine (closingLine stem after) = false →
      ((∀ below, extract (above ++ closingLine stem after :: below) =
        extract (above ++ [closingLine stem after])) ↔
          IsClosed (above ++ [closingLine stem after])) := by
    intro after hline
    rw [← extract_append_iff (hlines after hline) (h.opens after)]
    simp only [List.append_assoc, List.singleton_append]
  -- with white space behind the closer the comment ends on this line, whatever stands below
  refine ⟨?_, hbelow⟩
  intro after after' below below' hafter hafter' hline hline'
  have hends := isClosed_concat (h.opens after) (closes_closingLine hafter)
  have hends' := isClosed_concat (h.opens after') (closes_closingLine hafter')
  rw [(hbelow after hline).2 hends, (hbelow after' hline').2 hends']
  by_cases hclosed : IsClosed above
  · have hsame := (extract_append_iff habove hclosed.opens).2 hclosed
    rw [hsame, hsame]
  · -- the trimmed lines are the same, so the comments are
    have hundecorated : undecorated (closingLine stem after) =
        undecorated (closingLine stem after') := by
      rw [undecorated, undecorated, trim_closingLine hafter, trim_closingLine hafter']
    rw [extract_eq, extract_eq, comment_concat habove hline (h.opens after) hclosed,
      comment_concat habove hline' (h.opens after') hclosed, List.map_append, List.map_append,
      List.map_singleton, List.map_singleton, hundecorated]

/-- A comment of two lines with a closer that ends the second one, and one that has a note and
    another closer behind it. -/
theorem extract_behind_closer_purge :
    EndsAt ["-- users", "/** Purges"] " * all.".toList ∧
      extract (["-- users", "/** Purges"] ++ closingLine " * all.".toList [' '] :: ["begin"]) =
        extract (["-- users", "/** Purges"] ++ closingLine " * all.".toList [] :: []) ∧
      extract (["-- users", "/** Purges"] ++
          closingLine " * all.".toList " -- now */".toList :: ["begin"]) =
        extract (["-- users", "/** Purges"] ++
          [closingLine " * all.".toList " -- now */".toList]) := by
  have hopener : "/** Purges" = String.ofList ([] ++ (opener ++ " Purges".toList)) := by decide
  have husers : ∀ line ∈ ["-- users"], opens line = false := by decide
  have hends : EndsAt ["-- users", "/** Purges"] " * all.".toList := by
    rw [hopener]
    exact .lineBelow husers List.all_nil (by decide +kernel) (List.forall_mem_nil _)
      (by decide +kernel)
  have habove : ∀ line ∈ ["-- users", "/** Purges"], isOnLine line = false := by decide +kernel
  have hnote : IsClosed (["-- users", "/** Purges"] ++
      [closingLine " * all.".toList " -- now */".toList]) :=
    isClosed_concat ⟨"/** Purges", by decide, by decide⟩ (by decide)
  have hline : ∀ after ∈ [[' '], [], " -- now */".toList],
      isOnLine (closingLine " * all.".toList after) = false := by decide +kernel
  obtain ⟨hblank, hbelow⟩ := extract_behind_closer hends habove
  refine ⟨hends, ?_, ?_⟩
  · exact hblank [' '] [] ["begin"] [] (by decide) rfl (hline _ (by simp)) (hline _ (by simp))
  · exact (hbelow " -- now */".toList (hline _ (by simp))).2 hnote ["begin"]

/-- A note behind the closer becomes part of the doc block. -/
theorem extract_note_behind_closer :
    EndsAt [] "/** Purges. ".toList ∧
      extract [closingLine "/** Purges. ".toList [], "create procedure purge()"] =
        ⟨"Purges.", "", []⟩ ∧
      extract [closingLine "/** Purges. ".toList " -- for now".toList, "create procedure purge()"] =
        ⟨"Purges. */ -- for now", "", []⟩ := by
  have htext : ¬ closer <:+: " Purges. ".toList ++ ['*'] := by decide +kernel
  have hends : EndsAt [] "/** Purges. ".toList :=
    .sameLine (List.forall_mem_nil _) List.all_nil htext
  exact ⟨hends, by decide +kernel, by decide +kernel⟩

end StoredRoutines.DocBlock
