import Mathlib.Data.List.Find
import StoredRoutines.Proofs.Placeholder.Pass

/-!
# Resolving a text with unknown tokens

Collecting the tokens of a text takes each of them as a whole. Substitution knows nothing of the
tokens without a value and steps through them character by character, so it can find a token that
begins with the last character of an unknown one. Everywhere else both agree.

## Main definitions

- `ScansFor` — a scan that looks for some tokens only, as a relation between a text and its pieces
- `Overlaps` — an unknown token whose last character begins a known one

## Main results

- `translate_lines` — line by line or in one go, fixed texts are inserted alike
- `scansFor_scan` — without overlaps both scans find the same tokens
- `resolve_filled` — what becomes of the pieces of a text
-/

namespace StoredRoutines.Placeholder

/-! ### Line by line or in one go -/

/-- A rule that replaces a part of a line by the same text on every line. -/
structure Rule.Inline (r : Rule) : Prop where
  key_ne_nil : r.key ≠ []
  newline_notMem : '\n' ∉ r.key
  fixed : ∃ value, r.insertion = .text value

section

variable {rs : List Rule}

theorem matching?_append_newline (h : ∀ r ∈ rs, r.Inline) (s rest : List Char) :
    matching? rs (s ++ '\n' :: rest) = matching? rs s := by
  unfold matching?
  refine List.find?_congr fun r hr => ?_
  rw [Bool.eq_iff_iff, List.isPrefixOf_iff_prefix, List.isPrefixOf_iff_prefix]
  constructor
  · exact prefix_of_prefix_append (h r hr).newline_notMem (.inr ⟨rest, rfl⟩)
  · exact fun hprefix => hprefix.trans (List.prefix_append s _)

/-- The number of the line plays no part for rules without it. -/
theorem translate_line (h : ∀ r ∈ rs, r.Inline) (line line' : Nat) (s : List Char) :
    translate rs line s = translate rs line' s := by
  unfold translate
  -- on the scan itself, which carries the number of characters it still passes over
  generalize 0 = covered
  fun_induction translateFrom rs line covered s with
  | case1 => rfl
  | case2 covered c rest ih => exact ih
  | case3 c rest r hmatch ih =>
    obtain ⟨value, hvalue⟩ := (h r (List.mem_of_find?_eq_some hmatch)).fixed
    simp only [translateFrom, hmatch, ih, hvalue, Insertion.on]
  | case4 c rest hmatch ih => simp only [translateFrom, hmatch, ih]

/-- A line feed is kept, and nothing that is replaced goes beyond it. -/
theorem translate_append_newline (h : ∀ r ∈ rs, r.Inline) (line : Nat) (s rest : List Char) :
    translate rs line (s ++ '\n' :: rest) =
      translate rs line s ++ '\n' :: translate rs line rest := by
  -- on the length of what stands before the line feed, since a key is passed over as a whole
  induction hlen : s.length using Nat.strongRecOn generalizing s with
  | ind n ih =>
  have hnewline := matching?_append_newline h s rest
  cases hmatch : matching? rs s with
  | some r =>
    rw [hmatch] at hnewline
    have hkey := (h r (List.mem_of_find?_eq_some hmatch)).key_ne_nil
    have hpos := List.length_pos_iff.2 hkey
    have hprefix : r.key <+: s := by simpa using List.find?_some hmatch
    obtain ⟨s', rfl⟩ := hprefix
    rw [List.length_append] at hlen
    rw [translate_of_some hmatch hkey, translate_of_some hnewline hkey, List.drop_left,
      List.append_assoc, List.append_assoc, List.drop_left, ih s'.length (by omega) s' rfl]
  | none =>
    rw [hmatch] at hnewline
    cases s with
    | nil => exact translate_of_none hnewline
    | cons c s =>
      rw [List.length_cons] at hlen
      rw [List.cons_append] at hnewline ⊢
      rw [translate_of_none hmatch, translate_of_none hnewline, ih s.length (by omega) s rfl,
        List.cons_append]

/-- For such rules the lines can be translated one by one or all at once. -/
theorem translate_lines (h : ∀ r ∈ rs, r.Inline) (line first : Nat) (lines : List (List Char)) :
    List.intercalate ['\n'] ((lines.zipIdx first).map fun (l, number) => translate rs number l) =
      translate rs line (List.intercalate ['\n'] lines) := by
  induction lines generalizing first with
  | nil => rfl
  | cons l lines ih =>
    have hl := translate_line h first line l
    cases lines with
    | nil => simpa using hl
    | cons next lines =>
      have hbelow := ih (first + 1)
      rw [List.zipIdx_cons, List.map_cons] at hbelow ⊢
      rw [List.zipIdx_cons, List.map_cons, List.intercalate_cons_cons, hbelow,
        List.intercalate_cons_cons, List.append_assoc, List.append_assoc]
      exact (congrArg (· ++ _) hl).trans (translate_append_newline h line l _).symm

end

/-! ### The rules of a map -/

/-- Without a location every key with characters stands for its value. -/
theorem mem_rules_none {replace : SortedMap String} {r : Rule} :
    r ∈ rules replace none ↔ ∃ key value, replace.get? key = some value ∧ key ≠ "" ∧
      r = ⟨key.toList, .text value.toList⟩ := by
  unfold rules entryRules
  rw [Option.map_none, Option.getD_none, List.append_nil, mem_sortBy, List.mem_filterMap]
  simp only [Option.isSome_none, Bool.false_and, Bool.false_eq_true, if_false]
  constructor
  · rintro ⟨⟨key, value⟩, hmem, hr⟩
    obtain ⟨hkey, hr⟩ := Option.ite_none_left_eq_some.1 hr
    refine ⟨key, value, (SortedMap.mem_entries_iff _ _ _).1 hmem, ?_, (Option.some.inj hr).symm⟩
    simpa using hkey
  · rintro ⟨key, value, hget, hkey, rfl⟩
    refine ⟨(key, value), (SortedMap.mem_entries_iff _ _ _).2 hget, ?_⟩
    exact Option.ite_none_left_eq_some.2 ⟨by simpa using hkey, rfl⟩

/-- Keys that stand on one line are replaced within lines. -/
theorem inline_of_mem_rules {replace : SortedMap String}
    (h : ∀ key value, replace.get? key = some value → '\n' ∉ key.toList) :
    ∀ r ∈ rules replace none, r.Inline := by
  intro r hr
  obtain ⟨key, value, hget, hkey, rfl⟩ := mem_rules_none.1 hr
  exact ⟨by simpa using hkey, h key value hget, value.toList, rfl⟩

section

variable {table : Table} {replace : SortedMap String}

/-- At most one rule matches: the one for the token that the text begins with. -/
theorem matching?_token (hreplace : Resolves table replace) (s : List Char) :
    matching? (rules replace none) s = (token? s).bind fun t =>
      (replace.get? (String.ofList t)).map fun value => ⟨t, .text value.toList⟩ := by
  cases hmatch : matching? (rules replace none) s with
  | some r =>
    obtain ⟨token, value, hget, -, rfl⟩ := mem_rules_none.1 (List.mem_of_find?_eq_some hmatch)
    have hprefix : token.toList <+: s := by simpa using List.find?_some hmatch
    rw [token?_eq_some_iff.2 ⟨(hreplace token value hget).1, hprefix⟩, Option.bind_some,
      String.ofList_toList, hget, Option.map_some]
  | none =>
    cases htoken : token? s with
    | none => rfl
    | some t =>
      cases hget : replace.get? (String.ofList t) with
      | none => simp [hget]
      | some value =>
        have hne : String.ofList t ≠ "" := by simpa using ne_nil_of_token? htoken
        have hmem := mem_rules_none.2 ⟨_, value, hget, hne, rfl⟩
        rw [String.toList_ofList] at hmem
        have hprefix := List.isPrefixOf_iff_prefix.2 (token?_isPrefix htoken)
        exact absurd hprefix (List.find?_eq_none.1 hmatch _ hmem)

end

/-! ### Scanning for some tokens -/

/-- The pieces of a text in one scan from left to right that looks for certain tokens only. -/
inductive ScansFor (known : List Char → Prop) : List Char → List Piece → Prop where
  /-- The end of the text. -/
  | done : ScansFor known [] []
  /-- A token that is looked for is taken as a whole. -/
  | token {t rest : List Char} {ps : List Piece} (ht : IsToken t) (hknown : known t)
      (hrest : ScansFor known rest ps) : ScansFor known (t ++ rest) (.token t :: ps)
  /-- Everywhere else the scan moves on by one character. -/
  | plain {c : Char} {rest : List Char} {ps : List Piece}
      (hc : ∀ t, IsToken t → known t → ¬ t <+: c :: rest) (hrest : ScansFor known rest ps) :
      ScansFor known (c :: rest) (.plain c :: ps)

section

variable {known : List Char → Prop} {s t : List Char} {ps : List Piece}

/-- Every text has a scan that looks for known tokens only. -/
theorem exists_scansFor (known : List Char → Prop) (s : List Char) : ∃ ps, ScansFor known s ps := by
  induction hlen : s.length using Nat.strongRecOn generalizing s with
  | ind n ih =>
  cases s with
  | nil => exact ⟨[], .done⟩
  | cons c rest =>
    by_cases hfound : ∃ t, IsToken t ∧ known t ∧ t <+: c :: rest
    · obtain ⟨t, ht, hknown, s', hs'⟩ := hfound
      have hpos := List.length_pos_iff.2 ht.ne_nil
      rw [← hs', List.length_append] at hlen
      obtain ⟨ps, hps⟩ := ih s'.length (by omega) s' rfl
      rw [← hs']
      exact ⟨_, .token ht hknown hps⟩
    · push Not at hfound
      rw [List.length_cons] at hlen
      obtain ⟨ps, hps⟩ := ih rest.length (by omega) rest rfl
      exact ⟨_, .plain hfound hps⟩

/-- Such a scan begins with a token if the token is known. -/
theorem scansFor_token (ht : IsToken t) :
    ScansFor known (t ++ s) (.token t :: ps) ↔ known t ∧ ScansFor known s ps := by
  constructor
  · intro h
    generalize hs : t ++ s = u at h
    cases h with
    | token _ hknown hrest => exact ⟨hknown, List.append_cancel_left hs ▸ hrest⟩
  · rintro ⟨hknown, hrest⟩
    exact .token ht hknown hrest

/-- Such a scan begins with a character if no known token begins there. -/
theorem scansFor_plain {c : Char} :
    ScansFor known (c :: s) (.plain c :: ps) ↔
      (∀ u, IsToken u → known u → ¬ u <+: c :: s) ∧ ScansFor known s ps := by
  constructor
  · intro h
    generalize hs : c :: s = u at h
    cases h with
    | plain hc hrest =>
      obtain ⟨-, rfl⟩ := List.cons.inj hs
      exact ⟨hc, hrest⟩
  · rintro ⟨hc, hrest⟩
    exact .plain hc hrest

/-- There is only one such scan. -/
theorem ScansFor.unique {qs : List Piece} (h : ScansFor known s ps) (h' : ScansFor known s qs) :
    ps = qs := by
  induction h generalizing qs with
  | done =>
    generalize hs : ([] : List Char) = s at h'
    cases h' with
    | done => rfl
    | token ht _ _ => exact absurd (List.append_eq_nil_iff.1 hs.symm).1 ht.ne_nil
    | plain _ _ => cases hs
  | @token t rest ps ht hknown _ ih =>
    generalize hs : t ++ rest = s at h'
    cases h' with
    | done => exact absurd (List.append_eq_nil_iff.1 hs).1 ht.ne_nil
    | @token t' rest' qs ht' _ hrest' =>
      -- both tokens are the one that is read from the start of the text
      have htoken := token?_append ht rest
      rw [hs, token?_append ht' rest', Option.some.injEq] at htoken
      subst htoken
      obtain rfl := List.append_cancel_left hs
      rw [ih hrest']
    | plain hc _ => exact absurd (hs ▸ List.prefix_append t rest) (hc t ht hknown)
  | @plain c rest ps hc _ ih =>
    generalize hs : c :: rest = s at h'
    cases h' with
    | done => cases hs
    | @token t' rest' qs ht' hknown' _ =>
      exact absurd (hs ▸ List.prefix_append t' rest') (hc t' ht' hknown')
    | plain _ hrest' =>
      cases hs
      rw [ih hrest']

/-- Nothing begins in a part without commercial ats. -/
theorem scansFor_append_of_notMem {body : List Char} (hbody : '@' ∉ body) :
    ScansFor known (body ++ s) (body.map Piece.plain ++ ps) ↔ ScansFor known s ps := by
  induction body with
  | nil => rfl
  | cons c body ih =>
    have hc : ∀ u, IsToken u → known u → ¬ u <+: c :: (body ++ s) := by
      intro u hu _ hprefix
      obtain ⟨rest, rfl⟩ := hu.head
      obtain ⟨rfl, -⟩ := List.cons_prefix_cons.1 hprefix
      exact hbody List.mem_cons_self
    rw [List.cons_append, List.map_cons, List.cons_append, scansFor_plain,
      ih fun h => hbody (List.mem_cons_of_mem _ h)]
    exact and_iff_right hc

/-- Between its two commercial ats a token holds no other. -/
theorem IsToken.between (h : IsToken t) : ∃ body, t = '@' :: (body ++ ['@']) ∧ '@' ∉ body := by
  obtain ⟨name, -, hname, hshape⟩ := h
  have hn : '@' ∉ name := fun hmem => absurd (hname _ hmem) (by decide)
  rcases hshape with rfl | rfl
  · exact ⟨name, rfl, hn⟩
  · exact ⟨name ++ typeSuffix, rfl, by simpa [typeSuffix] using hn⟩

/-- An unknown token is stepped through unless a known one begins with its last character. -/
theorem scansFor_unknown (ht : IsToken t) (hunknown : ¬ known t) :
    ScansFor known (t ++ s) (t.map Piece.plain ++ ps) ↔
      (∀ u, IsToken u → known u → ¬ u <+: '@' :: s) ∧ ScansFor known s ps := by
  -- what begins where the unknown token does is that token
  have hfirst : ∀ u, IsToken u → known u → ¬ u <+: t ++ s := by
    intro u hu hknown hprefix
    have htoken := token?_append ht s
    rw [token?_eq_some_iff.2 ⟨hu, hprefix⟩, Option.some.injEq] at htoken
    exact hunknown (htoken ▸ hknown)
  -- no known token begins with the first character nor behind it, so only the last one is left
  obtain ⟨body, rfl, hbody⟩ := ht.between
  rw [List.cons_append, List.append_assoc, List.singleton_append] at hfirst ⊢
  rw [List.map_cons, List.map_append, List.cons_append, List.append_assoc, scansFor_plain,
    and_iff_right hfirst, scansFor_append_of_notMem hbody]
  exact scansFor_plain

/-! ### Known tokens next to unknown ones -/

/-- The pieces of a text with the unknown tokens taken apart. -/
def spelled (known : List Char → Prop) [DecidablePred known] : Piece → List Piece
  | .token t => if known t then [.token t] else t.map .plain
  | .plain c => [.plain c]

/-- A known token begins with the last character of an unknown one. -/
def Overlaps (known : List Char → Prop) (ps : List Piece) : Prop :=
  ∃ t rest u, .token t :: rest <:+ ps ∧ ¬ known t ∧
    IsToken u ∧ known u ∧ u <+: '@' :: rest.flatMap Piece.text

theorem overlaps_plain {c : Char} : Overlaps known (.plain c :: ps) ↔ Overlaps known ps := by
  simp only [Overlaps, List.suffix_cons_iff, List.cons.injEq, reduceCtorEq, false_and, false_or]

/-- A token overlaps if it is unknown and a known one begins at its closing sign. -/
theorem overlaps_token : Overlaps known (.token t :: ps) ↔
    (¬ known t ∧ ∃ u, IsToken u ∧ known u ∧ u <+: '@' :: ps.flatMap Piece.text) ∨
      Overlaps known ps := by
  unfold Overlaps
  constructor
  · rintro ⟨t', rest, u, hsuffix, hunknown, hu⟩
    rcases List.suffix_cons_iff.1 hsuffix with heq | hsuffix
    · cases heq
      exact .inl ⟨hunknown, u, hu⟩
    · exact .inr ⟨t', rest, u, hsuffix, hunknown, hu⟩
  · rintro (⟨hunknown, u, hu⟩ | ⟨t', rest, u, hsuffix, hu⟩)
    · exact ⟨t, ps, u, List.suffix_rfl, hunknown, hu⟩
    · exact ⟨t', rest, u, List.suffix_cons_iff.2 (.inr hsuffix), hu⟩

theorem scans_text (h : Scans s ps) : ps.flatMap Piece.text = s := by
  rw [h.eq_scan, flatMap_text_scan]

/-- Looking for the known tokens finds those of the scan for all tokens, and no others, exactly if
    no two overlap. -/
theorem scansFor_scan [DecidablePred known] (h : Scans s ps) :
    ScansFor known s (ps.flatMap (spelled known)) ↔ ¬ Overlaps known ps := by
  induction h with
  | done => simpa [Overlaps] using ScansFor.done
  | @token t rest ps ht hrest ih =>
    rw [List.flatMap_cons, overlaps_token, scans_text hrest, not_or, ← ih, spelled]
    by_cases hknown : known t
    · rw [if_pos hknown, List.singleton_append, scansFor_token ht]
      simp [hknown]
    · rw [if_neg hknown, scansFor_unknown ht hknown]
      simp [hknown]
  | @plain c rest ps hc hrest ih =>
    rw [List.flatMap_cons, overlaps_plain, ← ih, spelled, List.singleton_append, scansFor_plain]
    exact and_iff_right fun u hu _ => hc u hu

end

/-! ### The resolved text -/

/-- The tokens that are replaced in a text: they have a value, and the scan has found them there,
    spelled in the same way. -/
def Replaced (text : String) (table : Table) (t : List Char) : Prop :=
  String.ofList t ∈ tokens text ∧ (table.get? (String.ofList t)).isSome

instance (text : String) (table : Table) : DecidablePred (Replaced text table) :=
  fun _ => inferInstanceAs (Decidable (_ ∧ _))

/-- What stands for a piece: the value of a token that has one, and otherwise the piece itself. -/
def filled (table : Table) : Piece → List Char
  | .token t => ((table.get? (String.ofList t)).map String.toList).getD t
  | .plain c => [c]

section

variable {text : String} {table : Table}

/-- The translation fills in the tokens of the scan that looks for known ones only. -/
theorem translate_scansFor {s : List Char} {ps : List Piece}
    (h : ScansFor (Replaced text table) s ps) (line : Nat) :
    translate (rules (collect text table).replace none) line s = ps.flatMap (filled table) := by
  have hreplace := resolves_collect text table
  induction h with
  | done => rfl
  | @token t rest ps ht hknown _ ih =>
    obtain ⟨hmem, hsome⟩ := hknown
    obtain ⟨value, hvalue⟩ := Option.isSome_iff_exists.1 hsome
    have hmatch := matching?_token hreplace (t ++ rest)
    rw [token?_append ht, Option.bind_some, get?_replace, if_pos hmem, hvalue,
      Option.map_some] at hmatch
    rw [translate_of_some hmatch ht.ne_nil, List.drop_left, ih, List.flatMap_cons, filled, hvalue]
    rfl
  | @plain c rest ps hc _ ih =>
    have hmatch : matching? (rules (collect text table).replace none) (c :: rest) = none := by
      rw [matching?_token hreplace, Option.bind_eq_none_iff]
      intro t htoken
      obtain ⟨ht, hprefix⟩ := token?_eq_some_iff.1 htoken
      have hunknown : ¬ Replaced text table t := fun hknown => hc t ht hknown hprefix
      rw [Option.map_eq_none_iff, get?_replace]
      split
      · next hmem => simpa [Replaced, hmem] using hunknown
      · rfl
    rw [translate_of_none hmatch, ih, List.flatMap_cons, filled, List.singleton_append]

/-- The text is resolved by the rules of its tokens. -/
theorem resolve_eq_translate (text : String) (table : Table) (line : Nat) :
    (resolve text table).1.toList =
      translate (rules (collect text table).replace none) line text.toList := by
  have hinline : ∀ r ∈ rules (collect text table).replace none, r.Inline := by
    refine inline_of_mem_rules fun token value hget => ?_
    exact (resolves_collect text table token value hget).1.newline_notMem
  have hlines := translate_lines hinline line 1 (Text.splitOn '\n' text.toList)
  rw [Text.intercalate_splitOn] at hlines
  unfold resolve substitute
  simp only [String.toList_ofList]
  exact hlines

/-- Tokens of the text are filled in alike, wherever they are spelled. -/
theorem flatMap_filled_spelled {ps : List Piece}
    (hps : ∀ t, .token t ∈ ps → String.ofList t ∈ tokens text) :
    (ps.flatMap (spelled (Replaced text table))).flatMap (filled table) =
      ps.flatMap (filled table) := by
  rw [List.flatMap_assoc]
  refine List.flatMap_congr fun p hp => ?_
  cases p with
  | plain c => rfl
  | token t =>
    rw [spelled]
    split
    · exact List.flatMap_singleton _ _
    · next hunknown =>
      have hnone : table.get? (String.ofList t) = none := by
        simpa [Replaced, hps t hp] using hunknown
      simp [filled, hnone, List.flatMap_map]

/-- Without overlaps the known tokens are replaced, and everything else stays as it is. -/
theorem resolve_of_not_overlaps (h : ¬ Overlaps (Replaced text table) (scan text.toList)) :
    (resolve text table).1.toList = (scan text.toList).flatMap (filled table) := by
  have hscan := (scansFor_scan (scans_scan text.toList)).2 h
  rw [resolve_eq_translate text table 0, translate_scansFor hscan, flatMap_filled_spelled]
  intro t ht
  rw [mem_tokens, String.toList_ofList]
  exact ht

theorem scan_of_isToken {t : List Char} (h : IsToken t) : scan t = [.token t] := by
  have htoken := token?_append h []
  rw [List.append_nil] at htoken
  rw [scan_token htoken, List.drop_length, scan_nil]

/-- A text that is a token becomes the value of the token, or stays and is listed as unknown. -/
theorem resolve_token {token : String} (h : IsToken token.toList) (table : Table) :
    resolve token table = match table.get? token with
      | some value => (value, [])
      | none => (token, [token]) := by
  have hscan := scan_of_isToken h
  have hapart : ¬ Overlaps (Replaced token table) (scan token.toList) := by
    rintro ⟨t, rest, u, hsuffix, -, hu, -, hprefix⟩
    rw [hscan] at hsuffix
    obtain ⟨-, rfl⟩ := List.cons.inj ((List.suffix_cons_iff.1 hsuffix).resolve_right (by simp))
    -- no token is as short as a commercial at
    obtain ⟨body, rfl, -⟩ := hu.between
    simpa using hprefix.length_le
  have htext := resolve_of_not_overlaps hapart
  rw [hscan, List.flatMap_singleton, filled, String.ofList_toList] at htext
  have htokens : tokens token = [token] := by
    rw [tokens, hscan]
    simp [Piece.token?]
  have hunknown : (resolve token table).2 =
      sortedDistinct ([token].filter fun t => (table.get? t).isNone) := by
    rw [← htokens]
    rfl
  refine Prod.ext ?_ ?_
  · rw [← String.toList_inj, htext]
    cases table.get? token <;> rfl
  · rw [hunknown]
    cases hget : table.get? token with
    | some value => simp [hget, sortedDistinct, SortedMap.keys, SortedMap.ofList, SortedMap.empty]
    | none =>
      rw [List.filter_singleton, hget]
      rfl

/-- The unknown tokens are listed once and in order, and the text is filled in one scan that looks
    only for the tokens that are replaced. These are the known tokens of the text unless one of them
    begins with the last character of an unknown one; then everything else stays as it is. -/
theorem resolve_filled (text : String) (table : Table) :
    (resolve text table).2.Pairwise (· < ·) ∧
    (∀ token, token ∈ (resolve text table).2 ↔
      token ∈ tokens text ∧ table.get? token = none) ∧
    ∃ ps, (∀ qs, ScansFor (Replaced text table) text.toList qs ↔ qs = ps) ∧
      (resolve text table).1.toList = ps.flatMap (filled table) ∧
      (ps = (scan text.toList).flatMap (spelled (Replaced text table)) ↔
        ¬ Overlaps (Replaced text table) (scan text.toList)) ∧
      (¬ Overlaps (Replaced text table) (scan text.toList) →
        (resolve text table).1.toList = (scan text.toList).flatMap (filled table)) := by
  -- what remains of the text is the scan that looks for the replaced tokens only
  obtain ⟨ps, hps⟩ := exists_scansFor (Replaced text table) text.toList
  have hunique : ∀ qs, ScansFor (Replaced text table) text.toList qs ↔ qs = ps := by
    intro qs
    constructor
    · exact fun hqs => hqs.unique hps
    · rintro rfl
      exact hps
  have htext : (resolve text table).1.toList = ps.flatMap (filled table) := by
    rw [resolve_eq_translate text table 0, translate_scansFor hps]
  have hscan : ps = (scan text.toList).flatMap (spelled (Replaced text table)) ↔
      ¬ Overlaps (Replaced text table) (scan text.toList) := by
    rw [← scansFor_scan (scans_scan text.toList), hunique, eq_comm]
  refine ⟨SortedMap.keys_sorted _, fun token => mem_unknown, ps, hunique, htext, hscan,
    resolve_of_not_overlaps⟩

/-- A token that begins inside an unknown one is replaced, and the unknown one does not stay. -/
theorem resolve_overlapping :
    resolve "@a@b@ @b@" (.ofList [("@B@", "x")]) = ("@ax x", ["@a@"]) ∧
      (scan "@a@b@ @b@".toList).flatMap (filled (.ofList [("@B@", "x")])) = "@a@b@ x".toList ∧
      (resolve "@a@b@ @b@" (.ofList [("@B@", "x")])).1.toList ≠
        (scan "@a@b@ @b@".toList).flatMap (filled (.ofList [("@B@", "x")])) := by
  decide +kernel

end

end StoredRoutines.Placeholder
