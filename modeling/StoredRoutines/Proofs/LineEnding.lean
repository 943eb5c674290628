import StoredRoutines.Load.Routine
import StoredRoutines.Proofs.Directive.Accepted
import StoredRoutines.Proofs.Placeholder.Scan

/-!
# Line endings

Some line feeds of a source may be written with a carriage return in front. Its lines stay the same,
as do its tokens, none of which holds a line break, and its signature, between whose words there may
be any white space. So the source says the same.

## Main definitions

- `Text.Returned` — the texts that have some carriage returns more

## Main results

- `Source.linesOf_returned` — the same lines
- `Placeholder.tokens_returned` — the same tokens
- `Signature.findIn?_returned` — the same signature
- `Source.parse_returned` — the same routine, or the same error
-/

namespace StoredRoutines

namespace Text

/-- The second text is the first one with a carriage return put in front of some line feeds, none of
    which had one before. The flag says whether a carriage return stands before the texts. -/
inductive Returned : Bool → List Char → List Char → Prop
  | done {after : Bool} : Returned after [] []
  | kept {after : Bool} {c : Char} {s t : List Char} (h : Returned (c == '\r') s t) :
      Returned after (c :: s) (c :: t)
  | inserted {s t : List Char} (h : Returned false s t) :
      Returned false ('\n' :: s) ('\r' :: '\n' :: t)

/-- Whether a text has some carriage returns more than another. -/
def isReturned : Bool → List Char → List Char → Bool
  | _, [], t => t.isEmpty
  | after, c :: s, t =>
    (t.head? == some c && isReturned (c == '\r') s t.tail) ||
      (!after && c == '\n' && ['\r', '\n'].isPrefixOf t && isReturned false s (t.drop 2))

variable {after : Bool} {s t u : List Char}

theorem isReturned_iff : isReturned after s t = true ↔ Returned after s t := by
  constructor
  · intro h
    induction s generalizing after t with
    | nil =>
      obtain rfl := List.isEmpty_iff.1 h
      exact .done
    | cons c s ih =>
      simp only [isReturned, Bool.or_eq_true, Bool.and_eq_true, beq_iff_eq, Bool.not_eq_true',
        List.isPrefixOf_iff_prefix] at h
      obtain ⟨hhead, h⟩ | ⟨⟨⟨rfl, rfl⟩, rest, rfl⟩, h⟩ := h
      · obtain ⟨t, rfl⟩ := List.head?_eq_some_iff.1 hhead
        exact .kept (ih h)
      · exact .inserted (ih h)
  · intro h
    induction h with
    | done => rfl
    | kept _ ih => simp [isReturned, ih]
    | inserted _ ih => simp [isReturned, ih]

instance (after : Bool) (s t : List Char) : Decidable (Returned after s t) :=
  decidable_of_iff _ isReturned_iff

namespace Returned

/-- The flag only forbids. -/
theorem weaken (h : Returned after s t) : Returned false s t := by
  cases h with
  | done => exact .done
  | kept h => exact .kept h
  | inserted h => exact .inserted h

/-- A text of one line is kept as a whole. -/
theorem of_append (h : Returned after (u ++ s) t) (hu : '\n' ∉ u) :
    ∃ t', t = u ++ t' ∧ Returned false s t' := by
  induction u generalizing after t with
  | nil => exact ⟨t, rfl, h.weaken⟩
  | cons c u ih =>
    rw [List.mem_cons, not_or] at hu
    obtain ⟨hc, hu⟩ := hu
    cases h with
    | kept h =>
      obtain ⟨t', rfl, hrest⟩ := ih h hu
      exact ⟨t', rfl, hrest⟩
    | inserted h => exact absurd rfl hc

/-- A beginning without carriage returns is kept as it was. -/
theorem isPrefix (h : Returned after s t) (hu : '\r' ∉ u) (hstart : u <+: t) :
    u <+: s := by
  induction h generalizing u with
  | done => exact hstart
  | @kept _ c s t _ ih =>
    cases u with
    | nil => exact List.nil_prefix
    | cons d u =>
      rw [List.mem_cons, not_or] at hu
      obtain ⟨rfl, hrest⟩ := List.cons_prefix_cons.1 hstart
      exact List.cons_prefix_cons.2 ⟨rfl, ih hu.2 hrest⟩
  | inserted _ ih =>
    cases u with
    | nil => exact List.nil_prefix
    | cons d u =>
      obtain ⟨rfl, -⟩ := List.cons_prefix_cons.1 hstart
      exact absurd List.mem_cons_self hu

theorem trimStart (h : Returned after s t) : Returned false (trimStart s) (trimStart t) := by
  have hreturn : isBlank '\r' = true := by decide
  have hfeed : isBlank '\n' = true := by decide
  induction h with
  | done => exact .done
  | @kept after c s t h ih =>
    rw [trimStart_cons, trimStart_cons]
    split
    · exact ih
    · exact .kept h
  | inserted h ih =>
    rw [trimStart_cons, trimStart_cons, trimStart_cons, if_pos hreturn, if_pos hfeed]
    exact ih

/-- A run of a class without line breaks. -/
theorem takeWhile_eq {p : Char → Bool} (hreturn : p '\r' = false) (hfeed : p '\n' = false)
    (h : Returned after s t) : s.takeWhile p = t.takeWhile p := by
  induction h with
  | done => rfl
  | kept h ih => rw [List.takeWhile_cons, List.takeWhile_cons, ih]
  | inserted h ih => rw [List.takeWhile_cons, List.takeWhile_cons, hreturn, hfeed]; rfl

/-- What follows white space differs in returned line feeds only. -/
theorem afterBlanks? (h : Returned after s t) :
    Option.Rel (Returned false) (Text.afterBlanks? s) (Text.afterBlanks? t) := by
  cases h with
  | done => exact .none
  | kept h =>
    rw [Text.afterBlanks?, Text.afterBlanks?]
    split
    · exact .some h.trimStart
    · exact .none
  | @inserted s t h =>
    have htrim : Text.trimStart ('\n' :: t) = Text.trimStart t := by
      rw [Text.trimStart_cons, if_pos (by decide)]
    rw [Text.afterBlanks?, Text.afterBlanks?, if_pos (by decide), if_pos (by decide), htrim]
    exact .some h.trimStart

end Returned

end Text

open Text (Returned)

variable {after : Bool} {s t : List Char}

/-! ### Lines -/

namespace Source

/-- The lines of two texts that come after the same beginning of a line. -/
theorem lines_after (pre : List Char) (hpre : '\n' ∉ pre)
    (h : Returned (pre.getLast? == some '\r') s t) :
    (Text.splitOn '\n' (pre ++ s)).map dropCarriageReturn =
      (Text.splitOn '\n' (pre ++ t)).map dropCarriageReturn := by
  generalize hafter : (pre.getLast? == some '\r') = after at h
  induction h generalizing pre with
  | done => rfl
  | @kept after c s t h ih =>
    by_cases hc : c = '\n'
    · subst hc
      rw [Text.splitOn_append_cons hpre, Text.splitOn_append_cons hpre, List.map_cons,
        List.map_cons]
      exact congrArg _ (ih [] List.not_mem_nil rfl)
    · have hpre' : '\n' ∉ pre ++ [c] := by simpa using ⟨hpre, Ne.symm hc⟩
      have hlast : ((pre ++ [c]).getLast? == some '\r') = (c == '\r') := by
        rw [List.getLast?_append]
        rfl
      have hlines := ih (pre ++ [c]) hpre' hlast
      rwa [List.append_assoc, List.append_assoc] at hlines
  | @inserted s t h ih =>
    -- the beginning of the line had no carriage return at its end, and gets the one that is dropped
    have hreturn : '\n' ∉ pre ++ ['\r'] := by simpa using hpre
    have hsplit := Text.splitOn_append_cons hreturn t
    rw [List.append_assoc] at hsplit
    have hlast : pre.getLast? ≠ some '\r' := by simpa using hafter
    have hdrop : dropCarriageReturn (pre ++ ['\r']) = dropCarriageReturn pre := by
      rw [dropCarriageReturn, dropCarriageReturn, if_neg hlast, List.getLast?_concat, if_pos rfl,
        List.dropLast_concat]
    change List.map _ (Text.splitOn '\n' (pre ++ '\n' :: s)) =
      List.map _ (Text.splitOn '\n' (pre ++ (['\r'] ++ '\n' :: t)))
    rw [Text.splitOn_append_cons hpre, hsplit, List.map_cons, List.map_cons, hdrop]
    exact congrArg _ (ih [] List.not_mem_nil rfl)

/-- Returned texts have the same lines. -/
theorem linesOf_returned {text text' : String} (h : Returned false text.toList text'.toList) :
    linesOf text' = linesOf text := by
  have hlines := lines_after [] List.not_mem_nil h
  rw [List.nil_append, List.nil_append] at hlines
  have hmap : ∀ text, linesOf text =
      ((Text.splitOn '\n' text.toList).map dropCarriageReturn).map String.ofList := fun text => by
    rw [List.map_map]
    rfl
  rw [hmap, hmap, hlines]

end Source

/-! ### Tokens -/

namespace Placeholder

theorem IsToken.return_notMem {t : List Char} (h : IsToken t) : '\r' ∉ t := fun hmem =>
  absurd (h.mem hmem) (by decide)

/-- The scan meets the same tokens, since each of them is kept as a whole and none begins at a line
    break. -/
theorem Scans.returned {ps : List Piece} (hscan : Scans s ps) (h : Returned after s t) :
    (scan t).filterMap Piece.token? = ps.filterMap Piece.token? := by
  induction hscan generalizing after t with
  | done =>
    cases h
    rfl
  | @token u rest ps hu _ ih =>
    obtain ⟨t, rfl, hrest⟩ := h.of_append hu.newline_notMem
    rw [scan_token (token?_append hu t), List.drop_left, List.filterMap_cons, List.filterMap_cons,
      ih hrest]
  | @plain c rest ps hc _ ih =>
    cases h with
    | @kept _ _ _ t h =>
      have hkept : Returned false (c :: rest) (c :: t) := .kept h
      have hnone : token? (c :: t) = none := token?_eq_none_iff.2 fun u hu hstart =>
        hc u hu (hkept.isPrefix hu.return_notMem hstart)
      rw [scan_plain hnone, List.filterMap_cons, List.filterMap_cons, ih h]
    | @inserted _ t h =>
      -- a line break is no part of a token, so the scan goes on behind it
      have hbreak : '@' ∉ ['\r', '\n'] := by decide
      have hsplit := scan_append_of_notMem hbreak t
      rw [List.cons_append, List.singleton_append] at hsplit
      rw [hsplit, List.filterMap_append, ih h]
      rfl

/-- Returned texts have the same tokens. -/
theorem tokens_returned {text text' : String} (h : Returned false text.toList text'.toList) :
    tokens text' = tokens text := by
  have htokens := (scans_scan text.toList).returned h
  have hfilter : ∀ text, tokens text =
      ((scan text.toList).filterMap Piece.token?).map String.ofList := fun _ =>
    (List.map_filterMap ..).symm
  rw [hfilter, hfilter, htokens]

end Placeholder

/-! ### Signatures -/

namespace Signature

theorem bind_eq_of_rel {α β : Type} {r : α → α → Prop} {x y : Option α} (h : Option.Rel r x y)
    {f : α → Option β} (hf : ∀ a b, r a b → f a = f b) : x.bind f = y.bind f := by
  cases h with
  | some h => exact hf _ _ h
  | none => rfl

/-- A keyword is found in both texts, and what follows it is returned. -/
theorem afterKeyword?_returned {ks : List Char} (hreturn : '\r' ∉ ks) (hfeed : '\n' ∉ ks)
    (h : Returned after s t) :
    Option.Rel (Returned false) (afterKeyword? ks s) (afterKeyword? ks t) := by
  induction ks generalizing after s t with
  | nil => exact .some h.weaken
  | cons k ks ih =>
    rw [List.mem_cons, not_or] at hreturn hfeed
    cases h with
    | done => exact .none
    | kept h =>
      rw [afterKeyword?, afterKeyword?]
      split
      · exact ih hreturn.2 hfeed.2 h
      · exact .none
    | inserted h =>
      have hfeed' : ¬ Char.toLower '\n' = k := hfeed.1
      have hreturn' : ¬ Char.toLower '\r' = k := hreturn.1
      rw [afterKeyword?, afterKeyword?, if_neg hfeed', if_neg hreturn']
      exact .none

/-- The kind of a routine is found in both texts, and what follows it is returned. -/
theorem kindAtStart?_returned (h : Returned after s t) :
    Option.Rel (fun p q => p.1 = q.1 ∧ Returned false p.2 q.2) (kindAtStart? s)
      (kindAtStart? t) := by
  have hbreaks : ∀ kind : RoutineKind, '\r' ∉ kind.word.toList ∧ '\n' ∉ kind.word.toList := by
    rintro (_ | _) <;> decide
  have hkeyword := fun kind => afterKeyword?_returned (hbreaks kind).1 (hbreaks kind).2 h
  have hprocedure := hkeyword .procedure
  have hfunction := hkeyword .function
  unfold kindAtStart?
  generalize afterKeyword? RoutineKind.procedure.word.toList s = x,
    afterKeyword? RoutineKind.procedure.word.toList t = y at hprocedure
  generalize afterKeyword? RoutineKind.function.word.toList s = x',
    afterKeyword? RoutineKind.function.word.toList t = y' at hfunction
  cases hprocedure with
  | some h => exact .some ⟨rfl, h⟩
  | none =>
    cases hfunction with
    | some h => exact .some ⟨rfl, h⟩
    | none => exact .none

theorem atStart?_returned (h : Returned after s t) : atStart? s = atStart? t := by
  unfold atStart?
  refine bind_eq_of_rel (afterKeyword?_returned (by decide) (by decide) h) fun s t h => ?_
  refine bind_eq_of_rel (h.afterBlanks?) fun s t h => ?_
  refine bind_eq_of_rel (kindAtStart?_returned h) ?_
  rintro ⟨kind, s⟩ ⟨kind', t⟩ ⟨hkind, h⟩
  obtain rfl : kind = kind' := hkind
  refine bind_eq_of_rel (h.afterBlanks?) fun s t h => ?_
  rw [h.takeWhile_eq (by decide) (by decide)]

theorem findIn?_returned (h : Returned after s t) : findIn? t = findIn? s := by
  have hbreak : ∀ {c : Char} (rest : List Char), c = '\r' ∨ c = '\n' →
      findIn? (c :: rest) = findIn? rest := by
    rintro c rest (rfl | rfl) <;> rfl
  induction h with
  | done => rfl
  | @kept after c s t h ih =>
    have hkept : Returned after (c :: s) (c :: t) := .kept h
    rw [findIn?, findIn?, ← atStart?_returned hkept, ih]
  | inserted h ih => rw [hbreak _ (.inl rfl), hbreak _ (.inr rfl), hbreak _ (.inr rfl), ih]

/-- The check of a name comes out alike for both texts. -/
theorem check_returned {text text' : String} (h : Returned false text.toList text'.toList)
    (expected : String) : check text' expected = check text expected := by
  rw [check, check, find?, find?, findIn?_returned h]

end Signature

/-- What a source says does not depend on how its lines end. -/
theorem Source.parse_returned (source : Source) (table : Placeholder.Table) {text : String}
    (h : Returned false source.text.toList text.toList) :
    ({ source with text := text } : Source).parse table = source.parse table := by
  have hlines : ({ source with text := text } : Source).lines = source.lines := linesOf_returned h
  have hcollect : Placeholder.collect text table = Placeholder.collect source.text table := by
    rw [Placeholder.collect, Placeholder.collect, Placeholder.tokens_returned h]
  unfold parse
  rw [hlines, hcollect, Signature.check_returned h]
  rfl

/-- A source whose lines end in both ways. -/
def welcome : Source where
  path := ⟨"psql/welcome.psql"⟩
  text := "/**\n * Hello.\r\n */\ncreate\nfunction welcome()\n-- type: function\r\n" ++
    "-- return: int\nbegin\nreturn @ONE@;\n"
  mtime := 1000

/-- The same text with a carriage return in front of every line feed. -/
def welcomeReturned : String :=
  "/**\r\n * Hello.\r\n */\ncreate\r\nfunction welcome()\n-- type: function\r\n" ++
    "-- return: int\r\nbegin\r\nreturn @ONE@;\r\n"

/-- A source whose lines end in both ways before and after, and that gets carriage returns in the
    comment, inside the signature and behind `begin`. -/
theorem Source.parse_returned_welcome :
    Returned false welcome.text.toList welcomeReturned.toList ∧
      ({ welcome with text := welcomeReturned } : Source).parse (.ofList [("@one@", "1")]) =
        welcome.parse (.ofList [("@one@", "1")]) ∧
      (welcome.parse (.ofList [("@one@", "1")])).toOption.isSome := by
  have hreturned : Returned false welcome.text.toList welcomeReturned.toList := by decide +kernel
  exact ⟨hreturned, parse_returned welcome _ hreturned, by decide +kernel⟩

end StoredRoutines
