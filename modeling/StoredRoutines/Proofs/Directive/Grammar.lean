import StoredRoutines.Proofs.Directive.Line

/-!
# The grammar of parameter directives

What stands behind `-- param:` is cut at white space into parts, and the parts alone decide what a
line declares. The recogniser takes the line character by character and comes to the same.

## Main definitions

- `DirectiveLine.Announces` — a comment with a keyword, and what follows the colon
- `ListParameter.Declares` — the parts that make up a parameter directive
- `ListParameter.Reads`, `ListParameter.Refuses` — what lines declare, and why a line is refused

## Main results

- `ListParameter.listParameter?_eq_some_iff` — the recogniser accepts exactly these
- `ListParameter.ofHeader_iff` — what is read from a header, and at which line reading fails
-/

namespace StoredRoutines

open Text (IsRun Ends Leads parts)

namespace DirectiveLine

variable {s t rest : List Char}

/-! ### Pieces of a line -/

theorem word?_eq_some {word : List Char} (h : word? (Text.trimStart s) = some (word, rest))
    (hrest : Ends rest) : IsRun Text.isWord (String.ofList word) ∧ Leads s word rest := by
  rw [word?] at h
  split at h
  · cases h
  next hne =>
  obtain ⟨hword, hdrop⟩ := Prod.mk.inj (Option.some.inj h)
  have hall : ∀ c ∈ word, Text.isWord c = true := by
    rw [← hword]
    exact List.all_eq_true.1 List.all_takeWhile
  have hnil : word ≠ [] := by simpa [hword] using hne
  refine ⟨⟨by simpa using hnil, by simpa using hall⟩, ?_, hnil, fun c hc => ?_, hrest⟩
  · rw [← hword, ← hdrop, List.takeWhile_append_dropWhile]
  · exact isBlank_of_isWord (hall c hc)

theorem word?_of_leads {word : String} (hword : IsRun Text.isWord word)
    (h : Leads s word.toList rest) : word? (Text.trimStart s) = some (word.toList, rest) := by
  rw [h.trimStart]
  refine word?_append hword rest fun c hc => Bool.eq_false_iff.2 fun hc' => ?_
  have hblank := h.ends c hc
  rw [isBlank_of_isWord hc'] at hblank
  cases hblank

theorem mark?_eq_some {c : Char} (h : mark? (Text.trimStart s) = some (c, rest))
    (hrest : Ends rest) : c ≠ '-' ∧ Leads s [c] rest := by
  cases hs : Text.trimStart s with
  | nil => simp [hs, mark?] at h
  | cons c' s' =>
    rw [hs, mark?] at h
    split at h
    · next hmark =>
      obtain ⟨rfl, rfl⟩ := Prod.mk.inj (Option.some.inj h)
      exact ⟨by simpa using (Bool.and_eq_true_iff.1 hmark).2, hs, List.cons_ne_nil _ _,
        by simpa using isBlank_of_isMark hmark, hrest⟩
    · cases h

theorem mark?_of_leads {c : Char} (hc : c ≠ '-') (h : Leads s [c] rest) :
    mark? (Text.trimStart s) = some (c, rest) := by
  have hmark : isMark c = true := by
    simp [isMark, h.solid c (List.mem_singleton_self c), hc]
  rw [h.trimStart, List.singleton_append, mark?, if_pos hmark]

/-! ### Lines with a keyword -/

/-- A comment: white space, two hyphens, white space again, `keyword` and a colon. Behind the colon
    stands `text`. -/
inductive Announces (keyword : String) : List Char → List Char → Prop
  | comment {lead gap text : List Char} (hlead : lead.all Text.isBlank = true)
      (hgap : gap.all Text.isBlank = true) (hne : gap ≠ []) :
      Announces keyword (lead ++ ['-', '-'] ++ gap ++ (keyword.toList ++ [':']) ++ text) text

/-- No keyword begins with white space. -/
theorem keyword_head {keyword : String} (hk : keyword ∈ keywords) (text : List Char) :
    ∀ c ∈ (keyword.toList ++ [':'] ++ text).head?, Text.isBlank c = false := by
  intro c hc
  have hall : ∀ k ∈ keywords, (k.toList ++ [':']).head?.all (!Text.isBlank ·) = true := by decide
  rw [List.head?_append_of_ne_nil _ (by simp)] at hc
  have hfirst := hall keyword hk
  rw [hc] at hfirst
  simpa using hfirst

theorem gap_ne_nil {keyword : String} (hk : keyword ∈ keywords) {gap text : List Char}
    (hends : Ends (gap ++ (keyword.toList ++ [':'] ++ text))) : gap ≠ [] := by
  rintro rfl
  cases hc : (keyword.toList ++ [':'] ++ text).head? with
  | none => simp at hc
  | some c =>
    have hblank := hends c hc
    rw [keyword_head hk text c hc] at hblank
    cases hblank

theorem announces_of_afterComment? {keyword : String} (hk : keyword ∈ keywords)
    {line text : List Char} (h : afterComment? keyword line = some text) :
    Announces keyword line text := by
  simp only [afterComment?, Option.bind_eq_bind, Option.bind_eq_some_iff] at h
  obtain ⟨s, hs, t, ht, htext⟩ := h
  rw [List.isPrefixOf?_eq_some_iff_append_eq] at hs htext
  obtain ⟨-, hends, ht⟩ := Text.afterBlanks?_eq_some_iff.1 ht
  obtain ⟨lead, hlead, hline⟩ := Text.exists_trimStart line
  obtain ⟨gap, hgap, hsplit⟩ := Text.exists_trimStart s
  rw [← ht, ← htext] at hsplit
  rw [hsplit] at hends
  have hannounces : Announces keyword
      (lead ++ ['-', '-'] ++ gap ++ (keyword.toList ++ [':']) ++ text) text :=
    .comment hlead hgap (gap_ne_nil hk hends)
  rw [hline, ← hs, hsplit]
  simpa only [List.append_assoc] using hannounces

theorem afterComment?_of_announces {keyword : String} (hk : keyword ∈ keywords)
    {line text : List Char} (h : Announces keyword line text) :
    afterComment? keyword line = some text := by
  obtain @⟨_, gap, _, hlead, hgap, hne⟩ := h
  have hdash : Text.isBlank '-' = false := by decide
  have hline :=
    Text.trimStart_append (t := '-' :: '-' :: (gap ++ (keyword.toList ++ [':'] ++ text))) hlead
      (by rintro c ⟨⟩; exact hdash)
  have hends : Ends (gap ++ (keyword.toList ++ [':'] ++ text)) := by
    intro c hc
    rw [List.head?_append_of_ne_nil _ hne] at hc
    exact Text.ends_of_all hgap c hc
  have hblanks : Text.afterBlanks? (gap ++ (keyword.toList ++ [':'] ++ text)) =
      some (keyword.toList ++ [':'] ++ text) :=
    Text.afterBlanks?_eq_some_iff.2
      ⟨by simp [hne], hends, (Text.trimStart_append hgap (keyword_head hk text)).symm⟩
  simp only [List.append_assoc, List.cons_append, List.nil_append] at hline hblanks ⊢
  simp only [afterComment?, hline, Option.bind_eq_bind, Option.bind_eq_some_iff]
  refine ⟨_, List.isPrefixOf?_eq_some_iff_append_eq.2 rfl, _, hblanks, ?_⟩
  exact List.isPrefixOf?_eq_some_iff_append_eq.2 (by simp)

/-- The text behind a keyword is what the keyword announces. -/
theorem afterComment?_eq_some_iff {keyword : String} (hk : keyword ∈ keywords)
    {line text : List Char} :
    afterComment? keyword line = some text ↔ Announces keyword line text :=
  ⟨announces_of_afterComment? hk, afterComment?_of_announces hk⟩

theorem Announces.unique {keyword : String} (hk : keyword ∈ keywords) {line text text' : List Char}
    (h : Announces keyword line text) (h' : Announces keyword line text') : text = text' := by
  rw [← afterComment?_eq_some_iff hk] at h h'
  exact Option.some.inj (h.symm.trans h')

/-- A line is a parameter directive exactly if it announces something. -/
theorem isListParameter_iff {line : String} :
    isListParameter line = true ↔ ∃ text, Announces "param" line.toList text := by
  have hparam : "param" ∈ keywords := by decide
  simp only [← afterComment?_eq_some_iff hparam, isListParameter, Option.isSome_iff_exists]

end DirectiveLine

namespace ListParameter

open DirectiveLine

/-! ### What a directive declares -/

/-- The parts that make up a parameter directive: two words, or two words and three characters. -/
inductive Declares : List (List Char) → ListParameter → Prop
  | standard {name listType : String} (hname : IsRun Text.isWord name)
      (htype : IsRun Text.isWord listType) :
      Declares [name.toList, listType.toList] ⟨name, listType, ',', '"', '\\'⟩
  | custom {name listType : String} {delimiter enclosure escape : Char}
      (hname : IsRun Text.isWord name) (htype : IsRun Text.isWord listType) (hd : delimiter ≠ '-')
      (he : enclosure ≠ '-') (hs : escape ≠ '-') :
      Declares [name.toList, listType.toList, [delimiter], [enclosure], [escape]]
        ⟨name, listType, delimiter, enclosure, escape⟩

theorem marks?_eq_some {s : List Char} {d e x : Char} (h : marks? s = some (d, e, x)) :
    Ends s ∧ d ≠ '-' ∧ e ≠ '-' ∧ x ≠ '-' ∧ parts s = [[d], [e], [x]] := by
  simp only [marks?, Option.bind_eq_bind, Option.bind_eq_some_iff] at h
  obtain ⟨s₁, h₁, ⟨d', r₁⟩, hd, s₂, h₂, ⟨e', r₂⟩, he, s₃, h₃, ⟨x', r₃⟩, hx, h⟩ := h
  simp only [Option.ite_none_right_eq_some, Option.some.injEq, Prod.mk.injEq] at h
  obtain ⟨hrest, rfl, rfl, rfl⟩ := h
  obtain ⟨-, hends, rfl⟩ := Text.afterBlanks?_eq_some_iff.1 h₁
  obtain ⟨-, hends₁, rfl⟩ := Text.afterBlanks?_eq_some_iff.1 h₂
  obtain ⟨-, hends₂, rfl⟩ := Text.afterBlanks?_eq_some_iff.1 h₃
  obtain ⟨hd, hleads₁⟩ := mark?_eq_some hd hends₁
  obtain ⟨he, hleads₂⟩ := mark?_eq_some he hends₂
  obtain ⟨hx, hleads₃⟩ := mark?_eq_some hx (Text.ends_of_all hrest)
  exact ⟨hends, hd, he, hx, by
    rw [hleads₁.parts, hleads₂.parts, hleads₃.parts, Text.parts_eq_nil_iff.2 hrest]⟩

theorem marks?_of_parts {s : List Char} {d e x : Char} (hs : Ends s)
    (hparts : parts s = [[d], [e], [x]]) (hd : d ≠ '-') (he : e ≠ '-') (hx : x ≠ '-') :
    marks? s = some (d, e, x) := by
  have hne : s ≠ [] := by
    rintro rfl
    cases hparts
  obtain ⟨r₁, hleads₁, hparts₁⟩ := Text.parts_eq_cons_iff.1 hparts
  obtain ⟨r₂, hleads₂, hparts₂⟩ := Text.parts_eq_cons_iff.1 hparts₁
  obtain ⟨r₃, hleads₃, hparts₃⟩ := Text.parts_eq_cons_iff.1 hparts₂
  have hblanks₁ := Text.afterBlanks?_of_leads hleads₁ hparts₁
  have hblanks₂ := Text.afterBlanks?_of_leads hleads₂ hparts₂
  simp only [marks?, Text.afterBlanks?_eq_some_iff.2 ⟨hne, hs, rfl⟩, mark?_of_leads hd hleads₁,
    hblanks₁, mark?_of_leads he hleads₂, hblanks₂, mark?_of_leads hx hleads₃,
    Text.parts_eq_nil_iff.1 hparts₃, Option.bind_eq_bind, Option.bind_some, if_true]

/-- A directive that is read declares its parameter. -/
theorem declares_of_listParameter? {line : String} {p : ListParameter}
    (h : listParameter? line = some p) :
    ∃ text, Announces "param" line.toList text ∧ Declares (parts text) p := by
  simp only [listParameter?, Option.bind_eq_bind, Option.bind_eq_some_iff] at h
  obtain ⟨text, htext, ⟨name, r₁⟩, hname, s₂, h₂, ⟨listType, r₂⟩, htype, h⟩ := h
  refine ⟨text, announces_of_afterComment? (by decide) htext, ?_⟩
  obtain ⟨-, hends₁, rfl⟩ := Text.afterBlanks?_eq_some_iff.1 h₂
  obtain ⟨hname, hleads₁⟩ := word?_eq_some hname hends₁
  simp only at htype h
  split at h
  · next hblank =>
    cases h
    obtain ⟨htype, hleads₂⟩ := word?_eq_some htype (Text.ends_of_all hblank)
    have hdeclares := Declares.standard hname htype
    rw [String.toList_ofList, String.toList_ofList] at hdeclares
    rw [hleads₁.parts, hleads₂.parts, Text.parts_eq_nil_iff.2 hblank]
    exact hdeclares
  · simp only [Option.bind_eq_some_iff] at h
    obtain ⟨⟨d, e, x⟩, hmarks, h⟩ := h
    cases h
    obtain ⟨hends₂, hd, he, hx, hparts⟩ := marks?_eq_some hmarks
    obtain ⟨htype, hleads₂⟩ := word?_eq_some htype hends₂
    have hdeclares := Declares.custom hname htype hd he hx
    rw [String.toList_ofList, String.toList_ofList] at hdeclares
    rw [hleads₁.parts, hleads₂.parts, hparts]
    exact hdeclares

/-- A parameter that is declared is read. -/
theorem listParameter?_of_declares {line : String} {text : List Char} {p : ListParameter}
    (hline : Announces "param" line.toList text) (h : Declares (parts text) p) :
    listParameter? line = some p := by
  have htext := afterComment?_of_announces (by decide) hline
  generalize hparts : parts text = ws at h
  cases h with
  | standard hname htype =>
    obtain ⟨r₁, hleads₁, hparts₁⟩ := Text.parts_eq_cons_iff.1 hparts
    obtain ⟨r₂, hleads₂, hparts₂⟩ := Text.parts_eq_cons_iff.1 hparts₁
    have hblanks₁ := Text.afterBlanks?_of_leads hleads₁ hparts₁
    simp only [listParameter?, htext, word?_of_leads hname hleads₁, hblanks₁,
      word?_of_leads htype hleads₂, Text.parts_eq_nil_iff.1 hparts₂, Option.bind_eq_bind,
      Option.bind_some, if_true, String.ofList_toList]
    rfl
  | custom hname htype hd he hx =>
    obtain ⟨r₁, hleads₁, hparts₁⟩ := Text.parts_eq_cons_iff.1 hparts
    obtain ⟨r₂, hleads₂, hparts₂⟩ := Text.parts_eq_cons_iff.1 hparts₁
    have hblanks₁ := Text.afterBlanks?_of_leads hleads₁ hparts₁
    have hblank : r₂.all Text.isBlank = false := by
      rw [Bool.eq_false_iff, Ne, ← Text.parts_eq_nil_iff, hparts₂]
      exact List.cons_ne_nil _ _
    simp only [listParameter?, htext, word?_of_leads hname hleads₁, hblanks₁,
      word?_of_leads htype hleads₂, hblank, marks?_of_parts hleads₂.ends hparts₂ hd he hx,
      Option.bind_eq_bind, Option.bind_some, Bool.false_eq_true, if_false, String.ofList_toList]

/-- The recogniser accepts the lines that announce a directive with fitting parts. -/
theorem listParameter?_eq_some_iff {line : String} {p : ListParameter} :
    listParameter? line = some p ↔
      ∃ text, Announces "param" line.toList text ∧ Declares (parts text) p := by
  constructor
  · exact declares_of_listParameter?
  · rintro ⟨text, hline, h⟩
    exact listParameter?_of_declares hline h

/-! ### Headers -/

/-- The list formats that lines declare, one for each directive, from top to bottom. -/
inductive Reads : List String → List ListParameter → Prop
  | nil : Reads [] []
  | other {line : String} {rest : List String} {ps : List ListParameter}
      (hline : ∀ text, ¬ Announces "param" line.toList text) (h : Reads rest ps) :
      Reads (line :: rest) ps
  | directive {line : String} {text : List Char} {p : ListParameter} {rest : List String}
      {ps : List ListParameter} (hline : Announces "param" line.toList text)
      (hp : Declares (parts text) p) (h : Reads rest ps) : Reads (line :: rest) (p :: ps)

/-- Why a line is refused, given its number and the names that directives above it have used. -/
inductive Refuses (number : Nat) (used : List String) (line : String) : LoadError → Prop
  | malformed {text : List Char} (hline : Announces "param" line.toList text)
      (h : ∀ p, ¬ Declares (parts text) p) :
      Refuses number used line
        (.malformedListParameter number (String.ofList (Text.trim line.toList)))
  | repeated {text : List Char} {p : ListParameter} (hline : Announces "param" line.toList text)
      (hp : Declares (parts text) p) (hused : p.name ∈ used) :
      Refuses number used line (.duplicateListParameter p.name)

variable {number : Nat} {used lines rest : List String} {line : String} {e : LoadError}
  {ps : List ListParameter}

theorem Refuses.mono {used' : List String} (h : Refuses number used line e)
    (hused : ∀ name ∈ used, name ∈ used') : Refuses number used' line e := by
  cases h with
  | malformed hline h => exact .malformed hline h
  | repeated hline hp hmem => exact .repeated hline hp (hused _ hmem)

/-- A line is passed over, refused or read. -/
theorem line_cases (number : Nat) (used : List String) (line : String) :
    (∀ text, ¬ Announces "param" line.toList text) ∨ (∃ e, Refuses number used line e) ∨
      ∃ text p, Announces "param" line.toList text ∧ Declares (parts text) p ∧ p.name ∉ used := by
  by_cases hline : ∃ text, Announces "param" line.toList text
  · obtain ⟨text, hline⟩ := hline
    by_cases hp : ∃ p, Declares (parts text) p
    · obtain ⟨p, hp⟩ := hp
      by_cases hused : p.name ∈ used
      · exact .inr (.inl ⟨_, .repeated hline hp hused⟩)
      · exact .inr (.inr ⟨text, p, hline, hp, hused⟩)
    · exact .inr (.inl ⟨_, .malformed hline (not_exists.1 hp)⟩)
  · exact .inl (not_exists.1 hline)

/-! One step of the reading loop. -/

theorem ofLines_other (hline : ∀ text, ¬ Announces "param" line.toList text) :
    ofLines number used (line :: rest) = ofLines (number + 1) used rest := by
  have hother : ¬ isListParameter line = true := by
    rw [isListParameter_iff]
    exact not_exists.2 hline
  rw [ofLines, if_neg hother]

theorem ofLines_refused (h : Refuses number used line e) :
    ofLines number used (line :: rest) = .error e := by
  cases h with
  | @malformed text hline h =>
    have hnone : listParameter? line = none := by
      rw [Option.eq_none_iff_forall_not_mem]
      intro p hp
      obtain ⟨text', hline', hp⟩ := listParameter?_eq_some_iff.1 hp
      rw [hline'.unique (by decide) hline] at hp
      exact h p hp
    rw [ofLines, if_pos (isListParameter_iff.2 ⟨text, hline⟩), hnone]
  | @repeated text p hline hp hused =>
    have hused : used.contains p.name = true := List.contains_iff_mem.2 hused
    rw [ofLines, if_pos (isListParameter_iff.2 ⟨text, hline⟩),
      listParameter?_eq_some_iff.2 ⟨text, hline, hp⟩]
    simp only [hused, if_true]

/-- A parameter with a new name is read, and its name is in use from there on. -/
theorem ofLines_directive {text : List Char} {p : ListParameter}
    (hline : Announces "param" line.toList text) (hp : Declares (parts text) p)
    (hnew : p.name ∉ used) : ofLines number used (line :: rest) =
      (ofLines (number + 1) (p.name :: used) rest).map (p :: ·) := by
  have hnew : used.contains p.name = false := by simpa using hnew
  rw [ofLines, if_pos (isListParameter_iff.2 ⟨text, hline⟩),
    listParameter?_eq_some_iff.2 ⟨text, hline, hp⟩]
  simp only [hnew, Bool.false_eq_true, if_false]

/-! The whole loop. -/

/-- Lines that declare list formats under different names are read, and reading goes on below. -/
theorem ofLines_append (h : Reads lines ps) (hnodup : (ps.map (·.name)).Nodup)
    (hnew : ∀ p ∈ ps, p.name ∉ used) (rest : List String) : ofLines number used (lines ++ rest) =
      (ofLines (number + lines.length) ((ps.map (·.name)).reverse ++ used) rest).map (ps ++ ·) := by
  induction h generalizing number used with
  | nil =>
    simp only [List.nil_append, List.length_nil, Nat.add_zero, List.map_nil, List.reverse_nil]
    cases ofLines number used rest <;> rfl
  | @other line lines ps hline _ ih =>
    rw [List.cons_append, ofLines_other hline, ih hnodup hnew, List.length_cons,
      Nat.add_right_comm, Nat.add_assoc]
  | @directive line text p lines ps hline hp _ ih =>
    obtain ⟨hpnew, hnew⟩ := List.forall_mem_cons.1 hnew
    rw [List.map_cons, List.nodup_cons] at hnodup
    have hnew' : ∀ q ∈ ps, q.name ∉ p.name :: used := by
      intro q hq hmem
      rcases List.mem_cons.1 hmem with hname | hmem
      · exact hnodup.1 (hname ▸ List.mem_map_of_mem hq)
      · exact hnew q hq hmem
    rw [List.cons_append, ofLines_directive hline hp hpnew, ih hnodup.2 hnew', List.length_cons,
      Nat.add_right_comm, Nat.add_assoc, List.map_cons, List.reverse_cons, List.append_assoc,
      List.singleton_append]
    cases ofLines (number + (lines.length + 1)) ((ps.map (·.name)).reverse ++ p.name :: used) rest
      <;> rfl

/-- Lines that are accepted declare the parameters in order, under different names. -/
theorem reads_of_ofLines (h : ofLines number used lines = .ok ps) : Reads lines ps := by
  induction lines generalizing number used ps with
  | nil =>
    cases h
    exact .nil
  | cons line rest ih =>
    rcases line_cases number used line with hline | ⟨e, he⟩ | ⟨text, p, hline, hp, hnew⟩
    · rw [ofLines_other hline] at h
      exact .other hline (ih h)
    · rw [ofLines_refused he] at h
      cases h
    · rw [ofLines_directive hline hp hnew] at h
      cases hrest : ofLines (number + 1) (p.name :: used) rest with
      | error e => simp [hrest, Except.map] at h
      | ok qs =>
        rw [hrest] at h
        obtain rfl := Except.ok.inj h
        exact .directive hline hp (ih hrest)

/-- Reading fails at a line that is refused, below lines that have been read. -/
theorem exists_refused (h : ofLines number used lines = .error e) :
    ∃ before line after ps, lines = before ++ line :: after ∧ Reads before ps ∧
      (ps.map (·.name)).Nodup ∧ (∀ p ∈ ps, p.name ∉ used) ∧
      Refuses (number + before.length) ((ps.map (·.name)).reverse ++ used) line e := by
  induction lines generalizing number used with
  | nil => cases h
  | cons line rest ih =>
    rcases line_cases number used line with hline | ⟨e', he⟩ | ⟨text, p, hline, hp, hnew⟩
    · rw [ofLines_other hline] at h
      obtain ⟨before, line', after, ps, rfl, hreads, hnodup, hused, hrefuses⟩ := ih h
      -- the number of the line is counted from the first line of the list
      refine ⟨line :: before, line', after, ps, rfl, .other hline hreads, hnodup, hused, ?_⟩
      rwa [List.length_cons, ← Nat.add_assoc, Nat.add_right_comm]
    · rw [ofLines_refused he] at h
      obtain rfl := Except.error.inj h
      exact ⟨[], line, rest, [], rfl, .nil, List.nodup_nil, nofun, he⟩
    · rw [ofLines_directive hline hp hnew] at h
      cases hrest : ofLines (number + 1) (p.name :: used) rest with
      | ok qs => simp [hrest, Except.map] at h
      | error e' =>
        rw [hrest] at h
        obtain rfl := Except.error.inj h
        obtain ⟨before, line', after, ps, rfl, hreads, hnodup, hused, hrefuses⟩ := ih hrest
        refine ⟨line :: before, line', after, p :: ps, rfl, .directive hline hp hreads, ?_, ?_, ?_⟩
        · -- the names that are used below have all been new
          refine List.nodup_cons.2 ⟨fun hmem => ?_, hnodup⟩
          obtain ⟨q, hq, hname⟩ := List.mem_map.1 hmem
          exact hused q hq (hname ▸ List.mem_cons_self)
        · refine List.forall_mem_cons.2 ⟨hnew, fun q hq hmem => ?_⟩
          exact hused q hq (List.mem_cons_of_mem _ hmem)
        · rwa [List.length_cons, ← Nat.add_assoc, Nat.add_right_comm, List.map_cons,
            List.reverse_cons, List.append_assoc, List.singleton_append]

/-- What is read from a header, and at which line reading fails. The list formats of a header are
    those that its directives declare, as long as their names differ. Otherwise the first line that
    is refused decides the error. -/
theorem ofHeader_iff (header : List String) :
    (∀ ps, ofHeader header = .ok ps ↔ Reads header ps ∧ (ps.map (·.name)).Nodup) ∧
      ∀ e, ofHeader header = .error e ↔
        ∃ before line after ps, header = before ++ line :: after ∧ Reads before ps ∧
          (ps.map (·.name)).Nodup ∧
          Refuses (before.length + 1) (ps.map (·.name)) line e := by
  refine ⟨fun ps => ⟨fun h => ?_, ?_⟩, fun e => ⟨fun h => ?_, ?_⟩⟩
  · exact ⟨reads_of_ofLines h, ofHeader_nodup h⟩
  · rintro ⟨hreads, hnodup⟩
    have hrun : ofLines 1 [] (header ++ []) = _ :=
      ofLines_append hreads hnodup (fun _ _ => List.not_mem_nil) []
    rw [List.append_nil] at hrun
    rw [ofHeader, hrun, ofLines, Except.map, List.append_nil]
  · obtain ⟨before, line, after, ps, hheader, hreads, hnodup, -, hrefuses⟩ := exists_refused h
    rw [Nat.add_comm] at hrefuses
    exact ⟨before, line, after, ps, hheader, hreads, hnodup, hrefuses.mono (by simp)⟩
  · rintro ⟨before, line, after, ps, rfl, hreads, hnodup, hrefuses⟩
    rw [Nat.add_comm] at hrefuses
    rw [ofHeader, ofLines_append hreads hnodup (fun _ _ => List.not_mem_nil),
      ofLines_refused (hrefuses.mono (by simp))]
    rfl

end ListParameter

end StoredRoutines
