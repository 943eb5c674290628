import StoredRoutines.Proofs.Placeholder.Fragment
import StoredRoutines.Proofs.Placeholder.Scan
import StoredRoutines.Proofs.Reload

/-!
# Substitution in one pass

The tokens that the scan of a text finds are the places that substitution replaces. Although it
works line by line and tries all keys at every place, a source whose tokens are all known is
substituted as if it were read once from left to right.

## Main definitions

- `Stands` — what is replaced, and by what
- `Pass` — one pass over a text, as a relation between the text and what becomes of it

## Main results

- `pass_lines` — substituting line by line is such a pass
- `collect_and_substitute` — the tokens of a text, their values, and the text with the values
-/

namespace StoredRoutines.Placeholder

/-- A token stands for its value in the table, and a location constant for what the location says,
    or for the number of the line. -/
inductive Stands (table : Table) (location : Location) (line : Nat) :
    List Char → List Char → Prop where
  | token {t : List Char} {value : String} (ht : IsToken t)
      (hvalue : table.get? (String.ofList t) = some value) :
      Stands table location line t value.toList
  | constant {k : Slot} (hk : k ∈ constantSlots) :
      Stands table location line k.key ((k.site.insertion location).on line)

/-- One pass over a text from a line on. What is inserted is not looked at again. -/
inductive Pass (table : Table) (location : Location) : Nat → List Char → List Char → Prop where
  | done (line : Nat) : Pass table location line [] []
  | replaced {line : Nat} {key value rest out : List Char}
      (h : Stands table location line key value) (hrest : Pass table location line rest out) :
      Pass table location line (key ++ rest) (value ++ out)
  | kept {line : Nat} {c : Char} {rest out : List Char}
      (htoken : ∀ t, IsToken t → ¬ t <+: c :: rest)
      (hconstant : ∀ k ∈ constantSlots, ¬ k.key <+: c :: rest)
      (hrest : Pass table location (if c = '\n' then line + 1 else line) rest out) :
      Pass table location line (c :: rest) (c :: out)

/-! ### The pass is determined by the text -/

theorem constantSlots_head {k : Slot} (hk : k ∈ constantSlots) :
    ∃ rest, k.key = '_' :: '_' :: rest := by
  have hkeys : ∀ k ∈ constantSlots, k.key.take 2 = ['_', '_'] := by decide
  refine ⟨k.key.drop 2, ?_⟩
  conv => lhs; rw [← List.take_append_drop 2 k.key, hkeys k hk]
  rfl

theorem newline_notMem_constant {k : Slot} (hk : k ∈ constantSlots) : '\n' ∉ k.key := by
  have hkeys : ∀ k ∈ constantSlots, '\n' ∉ k.key := by decide
  exact hkeys k hk

/-- No key of a constant is the beginning of another one. -/
theorem constantSlots_unique {k k' : Slot} {s : List Char} (hk : k ∈ constantSlots)
    (hk' : k' ∈ constantSlots) (h : k.key <+: s) (h' : k'.key <+: s) : k = k' := by
  have hkeys : ∀ k ∈ constantSlots, ∀ k' ∈ constantSlots, k.key.isPrefixOf k'.key → k = k' := by
    decide
  rcases List.prefix_or_prefix_of_prefix h h' with hle | hle
  · exact hkeys k hk k' hk' (List.isPrefixOf_iff_prefix.2 hle)
  · exact (hkeys k' hk' k hk (List.isPrefixOf_iff_prefix.2 hle)).symm

/-- No token begins where a constant does. -/
theorem not_token_and_constant {t s : List Char} {k : Slot} (ht : IsToken t)
    (hk : k ∈ constantSlots) (h : t <+: s) (h' : k.key <+: s) : False := by
  obtain ⟨u, rfl⟩ := ht.head
  obtain ⟨v, hv⟩ := constantSlots_head hk
  rw [hv] at h'
  obtain ⟨r, rfl⟩ := h
  obtain ⟨hchar, -⟩ := List.cons_prefix_cons.1 h'
  exact absurd hchar (by decide)

namespace Stands

variable {table : Table} {location : Location} {line : Nat} {key value key' value' : List Char}

theorem ne_nil (h : Stands table location line key value) : key ≠ [] := by
  cases h with
  | token ht _ => exact ht.ne_nil
  | constant hk =>
    obtain ⟨rest, hkey⟩ := constantSlots_head hk
    rw [hkey]
    exact List.cons_ne_nil _ _

/-- At each place at most one thing is replaced. -/
theorem unique {s : List Char} (h : Stands table location line key value)
    (h' : Stands table location line key' value') (hs : key <+: s) (hs' : key' <+: s) :
    key = key' ∧ value = value' := by
  cases h with
  | token ht hvalue =>
    cases h' with
    | token ht' hvalue' =>
      have htoken := token?_eq_some_iff.2 ⟨ht, hs⟩
      have htoken' := token?_eq_some_iff.2 ⟨ht', hs'⟩
      obtain rfl := Option.some.inj (htoken.symm.trans htoken')
      obtain rfl := Option.some.inj (hvalue.symm.trans hvalue')
      exact ⟨rfl, rfl⟩
    | constant hk => exact (not_token_and_constant ht hk hs hs').elim
  | constant hk =>
    cases h' with
    | token ht' _ => exact (not_token_and_constant ht' hk hs' hs).elim
    | constant hk' =>
      obtain rfl := constantSlots_unique hk hk' hs hs'
      exact ⟨rfl, rfl⟩

theorem not_kept {s : List Char} (h : Stands table location line key value) (hs : key <+: s)
    (htoken : ∀ t, IsToken t → ¬ t <+: s) (hconstant : ∀ k ∈ constantSlots, ¬ k.key <+: s) :
    False := by
  cases h with
  | token ht _ => exact htoken _ ht hs
  | constant hk => exact hconstant _ hk hs

end Stands

/-- A text has one result at most under the one-pass rules. -/
theorem Pass.unique {table : Table} {location : Location} {line : Nat} {s out out' : List Char}
    (h : Pass table location line s out) (h' : Pass table location line s out') : out = out' := by
  induction h generalizing out' with
  | done line =>
    generalize hs : ([] : List Char) = s at h'
    cases h' with
    | done => rfl
    | replaced hstands _ => exact absurd (List.append_eq_nil_iff.1 hs.symm).1 hstands.ne_nil
    | kept _ _ _ => cases hs
  | @replaced line key value rest out hstands _ ih =>
    generalize hs : key ++ rest = s at h'
    cases h' with
    | done => exact absurd (List.append_eq_nil_iff.1 hs).1 hstands.ne_nil
    | @replaced _ key' value' rest' out' hstands' hrest' =>
      -- the same key stands here in both derivations, since no key is ambiguous
      obtain ⟨rfl, rfl⟩ := hstands.unique hstands' (hs ▸ List.prefix_append key rest)
        (List.prefix_append key' rest')
      obtain rfl := List.append_cancel_left hs
      rw [ih hrest']
    | kept htoken hconstant _ =>
      -- a key stands here, so the character is not kept
      exact (hstands.not_kept (hs ▸ List.prefix_append key rest) htoken hconstant).elim
  | @kept line c rest out htoken hconstant _ ih =>
    generalize hs : c :: rest = s at h'
    cases h' with
    | done => cases hs
    | @replaced _ key' value' rest' out' hstands' hrest' =>
      rw [hs] at htoken hconstant
      exact (hstands'.not_kept (List.prefix_append key' rest') htoken hconstant).elim
    | kept _ _ hrest' =>
      cases hs
      rw [ih hrest']

/-! ### The rules of a source -/

/-- A replacement map holds tokens with the values that the table gives them. -/
def Resolves (table : Table) (replace : SortedMap String) : Prop :=
  ∀ token value, replace.get? token = some value →
    IsToken token.toList ∧ table.get? token = some value

/-- All tokens of a text have a value. -/
def Known (replace : SortedMap String) (s : List Char) : Prop :=
  ∀ t, Piece.token t ∈ scan s → ∃ value, replace.get? (String.ofList t) = some value

section

variable {table : Table} {replace : SortedMap String} {location : Location}

theorem Resolves.isEmpty_eq_false (hreplace : Resolves table replace) {token value : String}
    (hget : replace.get? token = some value) : token.isEmpty = false := by
  rw [← Bool.not_eq_true, String.isEmpty_iff, ← String.toList_eq_nil_iff]
  exact (hreplace token value hget).1.ne_nil

/-- The slots of the entries are the tokens with their values. -/
theorem mem_entrySlots (hreplace : Resolves table replace) {k : Slot} :
    k ∈ entrySlots replace ↔
      ∃ token value, replace.get? token = some value ∧ k = ⟨token.toList, .value value.toList⟩ := by
  rw [entrySlots, List.mem_filterMap]
  have hslot : ∀ token value, replace.get? token = some value →
      token.isEmpty = false ∧ (token == lineKey) = false := by
    intro token value hget
    refine ⟨hreplace.isEmpty_eq_false hget, ?_⟩
    obtain ⟨rest, hrest⟩ := (hreplace token value hget).1.head
    rw [beq_eq_false_iff_ne]
    rintro rfl
    have hfirst : lineKey.toList.head? = some '_' := by decide
    rw [hrest] at hfirst
    exact absurd (Option.some.inj hfirst) (by decide)
  constructor
  · rintro ⟨⟨token, value⟩, hmem, hk⟩
    have hget := (SortedMap.mem_entries_iff _ _ _).1 hmem
    obtain ⟨hempty, hline⟩ := hslot token value hget
    simp only [hempty, hline, Bool.false_eq_true, if_false, Option.some.injEq] at hk
    exact ⟨token, value, hget, hk.symm⟩
  · rintro ⟨token, value, hget, rfl⟩
    obtain ⟨hempty, hline⟩ := hslot token value hget
    refine ⟨(token, value), (SortedMap.mem_entries_iff _ _ _).2 hget, ?_⟩
    simp [hempty, hline]

/-- The rules are those of the tokens and those of the constants. -/
theorem mem_rules (hreplace : Resolves table replace) {r : Rule} :
    r ∈ rules replace (some location) ↔
      (∃ token value, replace.get? token = some value ∧
        r = ⟨token.toList, .text value.toList⟩) ∨
      ∃ k ∈ constantSlots, r = k.rule location := by
  rw [rules_eq, List.mem_map]
  constructor
  · rintro ⟨k, hk, rfl⟩
    rcases List.mem_append.1 (mem_sortBy.1 hk) with hk | hk
    · obtain ⟨token, value, hget, rfl⟩ := (mem_entrySlots hreplace).1 hk
      exact .inl ⟨token, value, hget, rfl⟩
    · exact .inr ⟨k, hk, rfl⟩
  · rintro (⟨token, value, hget, rfl⟩ | ⟨k, hk, rfl⟩)
    · exact ⟨_, mem_sortBy.2 (List.mem_append_left _
        ((mem_entrySlots hreplace).2 ⟨token, value, hget, rfl⟩)), rfl⟩
    · exact ⟨k, mem_sortBy.2 (List.mem_append_right _ hk), rfl⟩

/-- A rule that matches stands for its key. -/
theorem stands_of_matching? (hreplace : Resolves table replace) {s : List Char} {r : Rule}
    (h : matching? (rules replace (some location)) s = some r) (line : Nat) :
    Stands table location line r.key (r.insertion.on line) ∧ r.key <+: s := by
  unfold matching? at h
  have hmatch : r.key.isPrefixOf s = true := by simpa using List.find?_some h
  have hprefix : r.key <+: s := List.isPrefixOf_iff_prefix.1 hmatch
  refine ⟨?_, hprefix⟩
  rcases (mem_rules hreplace).1 (List.mem_of_find?_eq_some h) with
    ⟨token, value, hget, rfl⟩ | ⟨k, hk, rfl⟩
  · obtain ⟨htoken, hvalue⟩ := hreplace token value hget
    exact .token htoken (by rw [String.ofList_toList, hvalue])
  · exact .constant hk

/-- Where no key matches, neither a token nor a constant begins. -/
theorem kept_of_matching? (hreplace : Resolves table replace) {c : Char} {rest : List Char}
    (hknown : Known replace (c :: rest))
    (h : matching? (rules replace (some location)) (c :: rest) = none) :
    (∀ t, IsToken t → ¬ t <+: c :: rest) ∧ ∀ k ∈ constantSlots, ¬ k.key <+: c :: rest := by
  have hnone : ∀ r ∈ rules replace (some location), ¬ r.key <+: c :: rest := by
    intro r hr hprefix
    exact List.find?_eq_none.1 h r hr (List.isPrefixOf_iff_prefix.2 hprefix)
  constructor
  · intro t ht hprefix
    have hmem : Piece.token t ∈ scan (c :: rest) := by
      rw [scan_token (token?_eq_some_iff.2 ⟨ht, hprefix⟩)]
      exact List.mem_cons_self
    obtain ⟨value, hget⟩ := hknown t hmem
    refine hnone _ ((mem_rules hreplace).2 (.inl ⟨_, value, hget, rfl⟩)) ?_
    rw [String.toList_ofList]
    exact hprefix
  · intro k hk hprefix
    exact hnone _ ((mem_rules hreplace).2 (.inr ⟨k, hk, rfl⟩)) hprefix

theorem Known.of_stands {line : Nat} {key value rest : List Char}
    (h : Known replace (key ++ rest)) (hstands : Stands table location line key value) :
    Known replace rest := by
  intro t ht
  apply h t
  cases hstands with
  | token htoken _ =>
    rw [scan_token (token?_append htoken _), List.drop_left]
    exact List.mem_cons_of_mem _ ht
  | constant hk =>
    have hkeys : ∀ k ∈ constantSlots, '@' ∉ k.key := by decide
    rw [scan_append_of_notMem (hkeys _ hk)]
    exact List.mem_append_right _ ht

theorem Known.of_cons {c : Char} {rest : List Char} (h : Known replace (c :: rest))
    (hc : ∀ t, IsToken t → ¬ t <+: c :: rest) : Known replace rest := by
  intro t ht
  apply h t
  rw [scan_plain (token?_eq_none_iff.2 hc)]
  exact List.mem_cons_of_mem _ ht

/-! ### Line by line -/

/-- What begins on a line and takes no line feed ends on it. -/
theorem prefix_of_prefix_append {u s tail : List Char} (hu : '\n' ∉ u)
    (htail : tail = [] ∨ ∃ r, tail = '\n' :: r) (h : u <+: s ++ tail) : u <+: s := by
  rcases htail with rfl | ⟨r, rfl⟩
  · rwa [List.append_nil] at h
  · rcases List.prefix_or_prefix_of_prefix h (List.prefix_append s _) with hle | ⟨w, rfl⟩
    · exact hle
    · cases w with
      | nil => exact (List.append_nil s).symm ▸ List.prefix_rfl
      | cons d w =>
        obtain ⟨hd, -⟩ := List.cons_prefix_cons.1 ((List.prefix_append_right_inj s).1 h)
        exact absurd (List.mem_append_right s (hd ▸ List.mem_cons_self)) hu

variable (location) in
/-- The translation of a line, followed by a pass over the lines below it. -/
theorem pass_line (hreplace : Resolves table replace) {line : Nat} {tail out : List Char}
    (htail : tail = [] ∨ ∃ r, tail = '\n' :: r)
    (hrest : Known replace tail → Pass table location line tail out) (s : List Char)
    (hs : '\n' ∉ s) (hknown : Known replace (s ++ tail)) :
    Pass table location line (s ++ tail)
      (translate (rules replace (some location)) line s ++ out) := by
  -- on the length of what is left of the line, since a key is passed over as a whole
  induction hlen : s.length using Nat.strongRecOn generalizing s with
  | ind n ih =>
  cases s with
  | nil => exact hrest hknown
  | cons c rest =>
    cases hm : matching? (rules replace (some location)) (c :: rest) with
    | some r =>
      obtain ⟨hstands, s', hs'⟩ := stands_of_matching? hreplace hm line
      have hpos : 0 < r.key.length := List.length_pos_iff.2 hstands.ne_nil
      have hline : translate (rules replace (some location)) line (c :: rest) = _ :=
        translate_of_some hm hstands.ne_nil
      rw [← hs', List.drop_left] at hline
      rw [← hs'] at hs hknown hlen ⊢
      rw [List.length_append] at hlen
      rw [List.append_assoc] at hknown
      rw [hline, List.append_assoc, List.append_assoc]
      refine .replaced hstands (ih s'.length (by omega) s' ?_ (hknown.of_stands hstands) rfl)
      exact fun h => hs (List.mem_append_right _ h)
    | none =>
      have hc : c ≠ '\n' := fun hc => hs (hc ▸ List.mem_cons_self)
      -- a key that begins here and matches below the line would match on the line
      have hmatching : matching? (rules replace (some location)) (c :: (rest ++ tail)) = none := by
        refine List.find?_eq_none.2 fun r hr hprefix => ?_
        have hkey : '\n' ∉ r.key := by
          rcases (mem_rules hreplace).1 hr with ⟨token, value, hget, rfl⟩ | ⟨k, hk, rfl⟩
          · exact (hreplace token value hget).1.newline_notMem
          · exact newline_notMem_constant hk
        have hbegins : r.key <+: (c :: rest) ++ tail := List.isPrefixOf_iff_prefix.1 hprefix
        have hline := prefix_of_prefix_append hkey htail hbegins
        exact List.find?_eq_none.1 hm r hr (List.isPrefixOf_iff_prefix.2 hline)
      obtain ⟨htoken, hconstant⟩ := kept_of_matching? hreplace hknown hmatching
      rw [translate_of_none hm]
      refine .kept htoken hconstant ?_
      rw [if_neg hc]
      rw [List.length_cons] at hlen
      exact ih rest.length (by omega) rest (fun h => hs (List.mem_cons_of_mem _ h))
        (hknown.of_cons htoken) rfl

variable (location) in
/-- Lines that are translated one by one are the one-pass result of the whole text. -/
theorem pass_lines (hreplace : Resolves table replace) (lines : List (List Char)) (line : Nat)
    (hlines : ∀ l ∈ lines, '\n' ∉ l) (hknown : Known replace (List.intercalate ['\n'] lines)) :
    Pass table location line (List.intercalate ['\n'] lines)
      (List.intercalate ['\n'] ((lines.zipIdx line).map fun (l, number) =>
        translate (rules replace (some location)) number l)) := by
  induction lines generalizing line with
  | nil => exact .done line
  | cons l lines ih =>
    have hl := hlines l List.mem_cons_self
    have hbelow := fun m hm => hlines m (List.mem_cons_of_mem _ hm)
    cases lines with
    | nil =>
      rw [List.intercalate_singleton] at hknown ⊢
      rw [← List.append_nil l] at hknown
      have hpass := pass_line location hreplace (.inl rfl) (fun _ => .done line) l hl
        hknown
      simpa using hpass
    | cons next lines =>
      rw [List.intercalate_cons_cons, List.append_assoc] at hknown ⊢
      rw [List.zipIdx_cons, List.map_cons, List.zipIdx_cons, List.map_cons,
        List.intercalate_cons_cons, List.append_assoc]
      refine pass_line location hreplace (.inr ⟨_, rfl⟩) (fun hfeed => ?_) l hl hknown
      -- nothing begins with the line feed, which is kept and counts as a line
      have htoken : ∀ t, IsToken t → ¬ t <+: '\n' :: List.intercalate ['\n'] (next :: lines) := by
        intro t ht hprefix
        obtain ⟨u, rfl⟩ := ht.head
        exact absurd (List.cons_prefix_cons.1 hprefix).1 (by decide)
      refine .kept htoken (fun k hk hprefix => ?_) ?_
      · obtain ⟨u, hu⟩ := constantSlots_head hk
        rw [hu] at hprefix
        exact absurd (List.cons_prefix_cons.1 hprefix).1 (by decide)
      · rw [if_pos rfl]
        exact ih (line + 1) hbelow (hfeed.of_cons htoken)

end

/-! ### Sources whose tokens are known -/

/-- The table that is collected resolves its tokens as the given one does. -/
theorem resolves_collect (text : String) (table : Table) :
    Resolves table (collect text table).replace := by
  intro token value hget
  rw [get?_replace] at hget
  obtain ⟨hmem, hvalue⟩ := Option.ite_none_right_eq_some.1 hget
  exact ⟨isToken_of_mem_tokens hmem, hvalue⟩

/-- If nothing unknown is collected, all tokens of the text are known. -/
theorem known_collect {text : String} {table : Table} (h : (collect text table).unknown = []) :
    Known (collect text table).replace text.toList := by
  intro t ht
  have hmem : String.ofList t ∈ tokens text := mem_tokens.2 (by rw [String.toList_ofList]; exact ht)
  have hsome : table.get? (String.ofList t) ≠ none := by
    intro hnone
    have hunknown := mem_unknown.2 ⟨hmem, hnone⟩
    rw [h] at hunknown
    cases hunknown
  obtain ⟨value, hvalue⟩ := Option.ne_none_iff_exists'.1 hsome
  exact ⟨value, by rw [get?_replace, if_pos hmem, hvalue]⟩

/-- The substituted text is the one-pass result of the text. -/
theorem pass_substitute {text : String} {table : Table} (h : (collect text table).unknown = [])
    (location : Location) :
    Pass table location 1 text.toList
      (substitute text (collect text table).replace (some location)).toList := by
  have hsplit := Text.intercalate_splitOn '\n' text.toList
  have hknown := known_collect h
  rw [← hsplit] at hknown
  have hpass := pass_lines location (resolves_collect text table)
    (Text.splitOn '\n' text.toList) 1 (fun l hl => Text.sep_notMem_of_mem_splitOn hl) hknown
  rw [hsplit] at hpass
  unfold substitute
  rw [String.toList_ofList]
  exact hpass

/-- The tokens of a text are those of its one scan. Collecting them gives each one that is in the
    table its value and lists all others once and in order, and it is complete exactly if there are
    no others. The text is then substituted as in one pass, at any location. -/
theorem collect_and_substitute (text : String) (table : Table) :
    (∀ ps, Scans text.toList ps ↔ ps = scan text.toList) ∧
    (∀ token, token ∈ tokens text ↔ Piece.token token.toList ∈ scan text.toList) ∧
    (∀ token value, (collect text table).replace.get? token = some value ↔
      token ∈ tokens text ∧ table.get? token = some value) ∧
    (collect text table).unknown.Pairwise (· < ·) ∧
    (∀ token, token ∈ (collect text table).unknown ↔
      token ∈ tokens text ∧ table.get? token = none) ∧
    ((∃ e, (collect text table).complete = .error e) ↔
      ∃ token ∈ tokens text, table.get? token = none) ∧
    ((collect text table).unknown = [] → ∀ location out,
      Pass table location 1 text.toList out ↔
        out = (substitute text (collect text table).replace (some location)).toList) := by
  refine ⟨fun ps => scans_iff, fun token => mem_tokens, fun token value => ?_, ?_,
    fun token => mem_unknown, ?_, fun h location out => ⟨fun hpass => ?_, ?_⟩⟩
  · rw [get?_replace, Option.ite_none_right_eq_some]
  · exact SortedMap.keys_sorted _
  · constructor
    · rintro ⟨e, he⟩
      -- a text without unknown tokens would be complete
      by_contra hnone
      push Not at hnone
      have hok := complete_eq_ok.2 ⟨fun token hmem => Option.isSome_iff_ne_none.2
        (hnone token hmem), rfl⟩
      rw [he] at hok
      cases hok
    · rintro ⟨token, hmem, hnone⟩
      have hne : (collect text table).unknown ≠ [] :=
        List.ne_nil_of_mem (mem_unknown.2 ⟨hmem, hnone⟩)
      exact ⟨_, by rw [Resolution.complete, if_pos hne]⟩
  · exact hpass.unique (pass_substitute h location)
  · rintro rfl
    exact pass_substitute h location

/-- A lone commercial at stays, the token after it is replaced, and neither the token nor the
    constant in the value is looked at. -/
theorem collect_and_substitute_adjacent :
    (collect "@@a@B@\n__LINE__ @A@" (.ofList [("@A@", "@A@\n__FILE__")])).unknown = [] ∧
      Pass (.ofList [("@A@", "@A@\n__FILE__")]) ⟨"'f'", "'r'", "'d'"⟩ 1
        "@@a@B@\n__LINE__ @A@".toList "@@A@\n__FILE__B@\n2 @A@\n__FILE__".toList := by
  have hunknown : (collect "@@a@B@\n__LINE__ @A@" (.ofList [("@A@", "@A@\n__FILE__")])).unknown
      = [] := by decide +kernel
  obtain ⟨-, -, -, -, -, -, hpass⟩ :=
    collect_and_substitute "@@a@B@\n__LINE__ @A@" (.ofList [("@A@", "@A@\n__FILE__")])
  exact ⟨hunknown, (hpass hunknown ⟨"'f'", "'r'", "'d'"⟩ _).2 (by decide +kernel)⟩

end StoredRoutines.Placeholder
