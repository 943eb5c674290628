import StoredRoutines.Proofs.Placeholder.Resolve

/-!
# The lines of unknown tokens

The lines that are remarked upon are found by looking for the unknown tokens as parts of a line. The
scan, which has found them in the first place, takes each token as a whole. Both agree but for lines
on which an unknown token is spelled from the last character of another token on.

## Main definitions

- `occurrences` — the tokens of a scan with the numbers of their lines
- `linesOfUnknown` — the lines on which the scan finds a token without a value

## Main results

- `occurs_iff` — where one of some tokens is a part of a line
- `mem_occurrences_scan` — the scan of a text finds the tokens of its lines
- `reported_lines` — these lines are reported, and which others are
-/

namespace StoredRoutines.Placeholder

/-! ### Tokens as parts of a text -/

section

variable {known : List Char → Prop} {s t u rest : List Char} {ps qs : List Piece}

/-- No token begins in a part without commercial ats. -/
theorem infix_append_of_notMem (hu : IsToken u) {body : List Char} (hbody : '@' ∉ body) :
    u <:+: body ++ s ↔ u <:+: s := by
  obtain ⟨tail, rfl⟩ := hu.head
  induction body with
  | nil => rfl
  | cons c body ih =>
    rw [List.mem_cons, not_or] at hbody
    have hc : ¬ '@' :: tail <+: c :: (body ++ s) := by
      intro hprefix
      exact hbody.1 (List.cons_prefix_cons.1 hprefix).1
    rw [List.cons_append, List.infix_cons_iff, ih hbody.2]
    exact or_iff_right hc

/-- A token that begins within another one is the other one, or begins with its last character. -/
theorem infix_token_append (ht : IsToken t) (hu : IsToken u) :
    u <:+: t ++ rest ↔ u = t ∨ u <+: '@' :: rest ∨ u <:+: rest := by
  have hfirst : u <+: t ++ rest ↔ u = t := by
    constructor
    · intro hprefix
      have htoken := token?_append ht rest
      rw [token?_eq_some_iff.2 ⟨hu, hprefix⟩] at htoken
      exact Option.some.inj htoken
    · rintro rfl
      exact List.prefix_append u rest
  obtain ⟨body, rfl, hbody⟩ := ht.between
  rw [List.cons_append, List.append_assoc, List.singleton_append] at hfirst ⊢
  rw [List.infix_cons_iff, hfirst, infix_append_of_notMem hu hbody, List.infix_cons_iff]

/-- One of some tokens is a part of a text if the scan finds one, or if one begins with the last
    character of a token of another kind. -/
theorem occurs_iff (h : Scans s ps) :
    (∃ u, IsToken u ∧ known u ∧ u <:+: s) ↔
      (∃ t, .token t ∈ ps ∧ known t) ∨ Overlaps known ps := by
  induction h with
  | done =>
    constructor
    · rintro ⟨u, hu, -, hinfix⟩
      exact absurd (List.infix_nil.1 hinfix) hu.ne_nil
    · rintro (⟨t, hmem, -⟩ | ⟨t, rest, u, hsuffix, -⟩)
      · cases hmem
      · cases List.suffix_nil.1 hsuffix
  | @token t rest ps ht hrest ih =>
    have hfound : (∃ t', .token t' ∈ Piece.token t :: ps ∧ known t') ↔
        known t ∨ ∃ t', .token t' ∈ ps ∧ known t' := by
      simp [or_and_right, exists_or]
    rw [overlaps_token, scans_text hrest, hfound]
    constructor
    · rintro ⟨u, hu, hknown, hinfix⟩
      rcases (infix_token_append ht hu).1 hinfix with rfl | hprefix | hinfix
      · exact .inl (.inl hknown)
      · -- a token that begins at the closing sign of `t` overlaps it, unless `t` is one that is
        -- looked for
        by_cases ht : known t
        · exact .inl (.inl ht)
        · exact .inr (.inl ⟨ht, u, hu, hknown, hprefix⟩)
      · rcases ih.1 ⟨u, hu, hknown, hinfix⟩ with hmem | hoverlaps
        · exact .inl (.inr hmem)
        · exact .inr (.inr hoverlaps)
    · have hbelow : (∃ u, IsToken u ∧ known u ∧ u <:+: rest) →
          ∃ u, IsToken u ∧ known u ∧ u <:+: t ++ rest := by
        rintro ⟨u, hu, hknown, hinfix⟩
        exact ⟨u, hu, hknown, (infix_token_append ht hu).2 (.inr (.inr hinfix))⟩
      rintro ((hknown | hmem) | ⟨-, u, hu, hknown, hprefix⟩ | hoverlaps)
      · exact ⟨t, ht, hknown, (infix_token_append ht ht).2 (.inl rfl)⟩
      · exact hbelow (ih.2 (.inl hmem))
      · exact ⟨u, hu, hknown, (infix_token_append ht hu).2 (.inr (.inl hprefix))⟩
      · exact hbelow (ih.2 (.inr hoverlaps))
  | @plain c rest ps hc hrest ih =>
    have hfound : (∃ t, .token t ∈ Piece.plain c :: ps ∧ known t) ↔
        ∃ t, .token t ∈ ps ∧ known t := by
      simp
    -- no token begins at a character that the scan has kept
    have hbegins : (∃ u, IsToken u ∧ known u ∧ u <:+: c :: rest) ↔
        ∃ u, IsToken u ∧ known u ∧ u <:+: rest := by
      refine exists_congr fun u => and_congr_right fun hu => and_congr_right fun _ => ?_
      rw [List.infix_cons_iff]
      exact or_iff_right (hc u hu)
    rw [overlaps_plain, hfound, hbegins, ih]

/-! ### The scan of a text and those of its lines -/

/-- No token goes beyond its line. -/
theorem Scans.append_newline (h : Scans s ps) (hrest : Scans rest qs) :
    Scans (s ++ '\n' :: rest) (ps ++ .plain '\n' :: qs) := by
  induction h with
  | done =>
    refine .plain (fun t ht hprefix => ?_) hrest
    obtain ⟨tail, rfl⟩ := ht.head
    exact absurd (List.cons_prefix_cons.1 hprefix).1 (by decide)
  | token ht _ ih =>
    rw [List.append_assoc]
    exact .token ht ih
  | plain hc _ ih =>
    refine .plain (fun t ht hprefix => ?_) ih
    exact hc t ht (prefix_of_prefix_append ht.newline_notMem (.inr ⟨rest, rfl⟩) hprefix)

/-- A line feed parts the scan of a text. -/
theorem scan_append_newline (s rest : List Char) :
    scan (s ++ '\n' :: rest) = scan s ++ .plain '\n' :: scan rest :=
  ((scans_scan s).append_newline (scans_scan rest)).eq_scan.symm

/-- The tokens among some pieces, with the numbers of the lines on which they stand. -/
def occurrences (line : Nat) : List Piece → List (Nat × List Char)
  | [] => []
  | .token t :: ps => (line, t) :: occurrences line ps
  | .plain c :: ps => occurrences (if c = '\n' then line + 1 else line) ps

/-- The occurrences of two stretches are those of the first one in its line and those of the second
    one. -/
theorem mem_occurrences_append (hps : .plain '\n' ∉ ps) (qs : List Piece) (line number : Nat) :
    (number, t) ∈ occurrences line (ps ++ qs) ↔
      (number = line ∧ .token t ∈ ps) ∨ (number, t) ∈ occurrences line qs := by
  induction ps generalizing line with
  | nil => simp
  | cons p ps ih =>
    rw [List.mem_cons, not_or] at hps
    cases p with
    | token t' =>
      rw [List.cons_append, occurrences, List.mem_cons, ih hps.2]
      simp only [Prod.mk.injEq, List.mem_cons, Piece.token.injEq]
      tauto
    | plain c =>
      have hc : c ≠ '\n' := by
        rintro rfl
        exact hps.1 rfl
      rw [List.cons_append, occurrences, if_neg hc, ih hps.2]
      simp

theorem mem_of_mem_occurrences {line number : Nat} (h : (number, t) ∈ occurrences line ps) :
    .token t ∈ ps := by
  induction ps generalizing line with
  | nil => cases h
  | cons p ps ih =>
    cases p with
    | token t' =>
      rcases List.mem_cons.1 h with heq | h
      · cases heq
        exact List.mem_cons_self
      · exact List.mem_cons_of_mem _ (ih h)
    | plain c => exact List.mem_cons_of_mem _ (ih h)

theorem newline_notMem_scan (hs : '\n' ∉ s) : .plain '\n' ∉ scan s := by
  intro hmem
  apply hs
  rw [← flatMap_text_scan s]
  exact List.mem_flatMap.2 ⟨_, hmem, List.mem_singleton_self _⟩

/-- A token occurs in the line in whose own scan it is found. -/
theorem mem_occurrences_lines {lines : List (List Char)} (hlines : ∀ l ∈ lines, '\n' ∉ l)
    (first number : Nat) :
    (number, t) ∈ occurrences first (scan (List.intercalate ['\n'] lines)) ↔
      ∃ line, (line, number) ∈ lines.zipIdx first ∧ .token t ∈ scan line := by
  have hcons : ∀ (l : List Char) (lines : List (List Char)) (first : Nat),
      (∃ line, (line, number) ∈ (l :: lines).zipIdx first ∧ .token t ∈ scan line) ↔
        (number = first ∧ .token t ∈ scan l) ∨
          ∃ line, (line, number) ∈ lines.zipIdx (first + 1) ∧ .token t ∈ scan line := by
    intro l lines first
    simp only [List.zipIdx_cons, List.mem_cons, Prod.mk.injEq, or_and_right, exists_or, and_assoc,
      exists_eq_left]
  induction lines generalizing first with
  | nil => simp [scan_nil, occurrences]
  | cons l lines ih =>
    have hl := newline_notMem_scan (hlines l List.mem_cons_self)
    rw [hcons]
    cases lines with
    | nil =>
      have hsplit := mem_occurrences_append (t := t) hl [] first number
      rw [List.append_nil] at hsplit
      rw [List.intercalate_singleton, hsplit]
      simp [occurrences]
    -- the numbers go on behind the line feed
    | cons next lines =>
      rw [List.intercalate_cons_cons, List.append_assoc, List.singleton_append,
        scan_append_newline, mem_occurrences_append hl, occurrences, if_pos rfl]
      exact or_congr_right (ih (fun m hm => hlines m (List.mem_cons_of_mem _ hm)) (first + 1))

/-- The tokens that the scan of a text finds are those that it finds line by line. -/
theorem mem_occurrences_scan {number : Nat} : (number, t) ∈ occurrences 1 (scan s) ↔
    ∃ line, (line, number) ∈ (Text.splitOn '\n' s).zipIdx 1 ∧ .token t ∈ scan line := by
  have hlines := mem_occurrences_lines (t := t)
    (fun l hl => Text.sep_notMem_of_mem_splitOn (s := s) hl) 1 number
  rwa [Text.intercalate_splitOn] at hlines

end

/-! ### The reported lines -/

/-- The scan finds a token without a value on the line with this number. -/
def Mentions (text : String) (table : Table) (number : Nat) : Prop :=
  ∃ found ∈ occurrences 1 (scan text.toList),
    found.1 = number ∧ table.get? (String.ofList found.2) = none

instance (text : String) (table : Table) : DecidablePred (Mentions text table) :=
  fun _ => inferInstanceAs (Decidable (∃ _ ∈ _, _))

/-- The lines on which the scan of a text finds a token without a value. -/
def linesOfUnknown (text : String) (table : Table) : List (Nat × String) :=
  ((Text.lines text).zipIdx 1).filterMap fun (line, number) =>
    if Mentions text table number then some (number, line) else none

/-- A token that is listed as unknown. -/
def Unknown (text : String) (table : Table) (t : List Char) : Prop :=
  String.ofList t ∈ (collect text table).unknown

/-- Keeping more elements keeps the fewer ones as a sublist. -/
theorem filterMap_sublist {α β : Type} {f g : α → Option β} {l : List α}
    (h : ∀ x ∈ l, ∀ y, f x = some y → g x = some y) : (l.filterMap f).Sublist (l.filterMap g) := by
  induction l with
  | nil => exact .slnil
  | cons x l ih =>
    have hl := ih fun x' hx' => h x' (List.mem_cons_of_mem _ hx')
    cases hf : f x with
    | none =>
      rw [List.filterMap_cons_none hf]
      cases hg : g x with
      | none => rwa [List.filterMap_cons_none hg]
      | some y =>
        rw [List.filterMap_cons_some hg]
        exact hl.cons y
    | some y =>
      rw [List.filterMap_cons_some hf, List.filterMap_cons_some (h x List.mem_cons_self y hf)]
      exact hl.cons_cons y

section

variable {text line : String} {table : Table} {number : Nat}

theorem mem_zipIdx_lines : (line, number) ∈ (Text.lines text).zipIdx 1 ↔
    (line.toList, number) ∈ (Text.splitOn '\n' text.toList).zipIdx 1 := by
  rw [Text.lines, List.zipIdx_map, List.mem_map]
  constructor
  · rintro ⟨⟨l, n⟩, hmem, heq⟩
    obtain ⟨rfl, rfl⟩ := Prod.mk.inj heq
    rwa [String.toList_ofList]
  · intro hmem
    exact ⟨_, hmem, Prod.ext String.ofList_toList rfl⟩

theorem eq_of_mem_zipIdx {line line' : List Char} {lines : List (List Char)} {first : Nat}
    (h : (line, number) ∈ lines.zipIdx first) (h' : (line', number) ∈ lines.zipIdx first) :
    line = line' := by
  rw [List.mk_mem_zipIdx_iff_le_and_getElem?_sub] at h h'
  exact Option.some.inj (h.2.symm.trans h'.2)

/-- A line mentions an unknown token exactly if its own scan does. -/
theorem mentions_iff (hline : (line, number) ∈ (Text.lines text).zipIdx 1) :
    Mentions text table number ↔ ∃ t, .token t ∈ scan line.toList ∧ Unknown text table t := by
  rw [mem_zipIdx_lines] at hline
  have hunknown : ∀ {t}, (number, t) ∈ occurrences 1 (scan text.toList) →
      (Unknown text table t ↔ table.get? (String.ofList t) = none) := by
    intro t ht
    have hmem : String.ofList t ∈ tokens text := by
      rw [mem_tokens, String.toList_ofList]
      exact mem_of_mem_occurrences ht
    rw [Unknown, mem_unknown]
    exact and_iff_right hmem
  constructor
  · rintro ⟨⟨n, t⟩, hmem, rfl, hnone⟩
    obtain ⟨line', hline', ht⟩ := mem_occurrences_scan.1 hmem
    obtain rfl := eq_of_mem_zipIdx hline hline'
    exact ⟨t, ht, (hunknown hmem).2 hnone⟩
  · rintro ⟨t, ht, hlisted⟩
    have hmem := mem_occurrences_scan.2 ⟨_, hline, ht⟩
    exact ⟨(number, t), hmem, rfl, (hunknown hmem).1 hlisted⟩

/-- A line is reported if an unknown token is a part of it. -/
theorem hasSubtext_iff_mentions (hline : (line, number) ∈ (Text.lines text).zipIdx 1) :
    ((collect text table).unknown.any fun t => Text.hasSubtext t.toList line.toList) = true ↔
      Mentions text table number ∨ Overlaps (Unknown text table) (scan line.toList) := by
  rw [mentions_iff hline, ← occurs_iff (scans_scan line.toList), List.any_eq_true]
  constructor
  · rintro ⟨token, hunknown, hsubtext⟩
    have htoken := isToken_of_mem_tokens (mem_unknown.1 hunknown).1
    refine ⟨token.toList, htoken, ?_, Text.hasSubtext_iff.1 hsubtext⟩
    rwa [Unknown, String.ofList_toList]
  · rintro ⟨u, -, hunknown, hinfix⟩
    refine ⟨_, hunknown, Text.hasSubtext_iff.2 ?_⟩
    rwa [String.toList_ofList]

end

/-- All lines on which the scan finds a token without a value are reported, in order and with their
    numbers. Another line is reported exactly if there the last character of a token that has a
    value begins an unknown token of the text. -/
theorem reported_lines (text : String) (table : Table) :
    (linesOfUnknown text table).Sublist (linesWithTokens text (collect text table).unknown) ∧
    (∀ number line, (number, line) ∈ linesWithTokens text (collect text table).unknown ↔
      (line, number) ∈ (Text.lines text).zipIdx 1 ∧
        (Mentions text table number ∨ Overlaps (Unknown text table) (scan line.toList))) ∧
    (linesWithTokens text (collect text table).unknown = linesOfUnknown text table ↔
      ∀ number line, (line, number) ∈ (Text.lines text).zipIdx 1 →
        Overlaps (Unknown text table) (scan line.toList) → Mentions text table number) := by
  -- the test of a line is decided by its own scan and by what overlaps there
  have hreported : ∀ number line,
      (number, line) ∈ linesWithTokens text (collect text table).unknown ↔
        (line, number) ∈ (Text.lines text).zipIdx 1 ∧
          (Mentions text table number ∨ Overlaps (Unknown text table) (scan line.toList)) := by
    intro number line
    rw [linesWithTokens, List.mem_filterMap]
    constructor
    · rintro ⟨⟨l, n⟩, hmem, heq⟩
      obtain ⟨hsubtext, heq⟩ := Option.ite_none_right_eq_some.1 heq
      obtain ⟨rfl, rfl⟩ := Prod.mk.inj (Option.some.inj heq)
      exact ⟨hmem, (hasSubtext_iff_mentions hmem).1 hsubtext⟩
    · rintro ⟨hmem, hline⟩
      exact ⟨(line, number), hmem, if_pos ((hasSubtext_iff_mentions hmem).2 hline)⟩
  refine ⟨?_, hreported, ?_, ?_⟩
  · refine filterMap_sublist fun ⟨line, number⟩ hmem y hy => ?_
    obtain ⟨hmentions, hy⟩ := Option.ite_none_right_eq_some.1 hy
    rw [← hy]
    exact if_pos ((hasSubtext_iff_mentions hmem).2 (.inl hmentions))
  · intro heq number line hmem hoverlaps
    have hline := (hreported number line).2 ⟨hmem, .inr hoverlaps⟩
    rw [heq, linesOfUnknown, List.mem_filterMap] at hline
    obtain ⟨⟨l, n⟩, -, heq⟩ := hline
    obtain ⟨hmentions, heq⟩ := Option.ite_none_right_eq_some.1 heq
    obtain ⟨rfl, -⟩ := Prod.mk.inj (Option.some.inj heq)
    exact hmentions
  · intro hmentions
    refine List.filterMap_congr fun ⟨line, number⟩ hmem => ?_
    refine if_congr ?_ rfl rfl
    rw [hasSubtext_iff_mentions hmem]
    exact or_iff_left_of_imp (hmentions number line hmem)

/-- The first line is reported for a token that the scan does not find on it. -/
theorem reported_lines_overlapping :
    linesWithTokens "@a@b@\n@b@" (collect "@a@b@\n@b@" (.ofList [("@A@", "x")])).unknown =
        [(1, "@a@b@"), (2, "@b@")] ∧
      linesOfUnknown "@a@b@\n@b@" (.ofList [("@A@", "x")]) = [(2, "@b@")] ∧
      linesWithTokens "@a@b@\n@b@" (collect "@a@b@\n@b@" (.ofList [("@A@", "x")])).unknown ≠
        linesOfUnknown "@a@b@\n@b@" (.ofList [("@A@", "x")]) := by
  decide +kernel

end StoredRoutines.Placeholder
