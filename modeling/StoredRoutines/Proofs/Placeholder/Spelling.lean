import Mathlib.Data.List.Forall2
import StoredRoutines.Proofs.Placeholder.Resolve

/-!
# The spelling of tokens

A table finds a token in any case, while the ending of a column type is only recognised in lower
case. So a text may write the names of its tokens in any case, and is resolved to the same text,
but a token that writes its ending in another case is none.

## Main definitions

- `sameName` — names that differ in case at most
- `Piece.Respelled`, `Piece.SameSuffix` — a piece in another case, but for its ending

## Main results

- `IsToken.fold_eq` — tokens that differ in case at most share an entry of a table
- `Scans.respelled` — a text whose tokens are respelled has the same pieces
- `resolve_respelled` — what remains of the tokens of a text, and the text that it is resolved to
-/

namespace StoredRoutines.Placeholder

/-! ### Letters -/

/-- Only letters of ASCII have another character in upper case. -/
theorem forall_toUpper {P : Char → Char → Prop} (hself : ∀ c, P c c)
    (hascii : ∀ n < 128, P (Char.ofNat n) (Char.ofNat n).toUpper) (c : Char) : P c c.toUpper := by
  by_cases hc : c.toNat < 128
  · have hcode := hascii c.toNat hc
    rwa [Char.ofNat_toNat] at hcode
  · have hlower : ¬ ('a'.val ≤ c.val ∧ c.val ≤ 'z'.val) := by
      rintro ⟨-, hz⟩
      exact hc (Nat.lt_of_le_of_lt (UInt32.le_iff_toNat_le.1 hz) (by decide))
    have hsame : c.toUpper = c := dif_neg hlower
    rw [hsame]
    exact hself c

theorem isNameChar_toUpper (c : Char) : isNameChar c.toUpper = isNameChar c :=
  forall_toUpper (P := fun c d => isNameChar d = isNameChar c) (fun _ => rfl) (by decide +kernel) c

theorem toUpper_eq_at {c : Char} : c.toUpper = '@' ↔ c = '@' :=
  forall_toUpper (P := fun c d => d = '@' ↔ c = '@') (fun _ => .rfl) (by decide +kernel) c

theorem toUpper_eq_percent {c : Char} : c.toUpper = '%' ↔ c = '%' :=
  forall_toUpper (P := fun c d => d = '%' ↔ c = '%') (fun _ => .rfl) (by decide +kernel) c

/-- Whether two names differ at most in the case of their letters. -/
def sameName (a b : String) : Bool :=
  a.toList.map Char.toUpper == b.toList.map Char.toUpper

theorem sameName_refl (name : String) : sameName name name = true :=
  beq_self_eq_true _

theorem sameName_ofList {t u : List Char} :
    sameName (String.ofList t) (String.ofList u) = true ↔
      t.map Char.toUpper = u.map Char.toUpper := by
  rw [sameName, beq_iff_eq, String.toList_ofList, String.toList_ofList]

theorem toNat_lt_of_isNameChar {c : Char} (h : isNameChar c = true) : c.toNat < 128 := by
  have hbelow : ∀ {last : UInt32}, c.val ≤ last → last < 128 → c.toNat < 128 :=
    fun hle hlast => UInt32.lt_iff_toNat_lt.1 (UInt32.lt_of_le_of_lt hle hlast)
  -- an upper-case letter, a lower-case letter, a digit, a low line or a full stop
  rcases Bool.or_eq_true_iff.1 h with h | h
  · rcases Bool.or_eq_true_iff.1 h with h | h
    · rcases Bool.or_eq_true_iff.1 h with h | h
      · rcases Bool.or_eq_true_iff.1 h with h | h
        · exact hbelow (of_decide_eq_true h).2 (by decide)
        · exact hbelow (of_decide_eq_true (Bool.and_eq_true_iff.1 h).2) (by decide)
      · exact hbelow (of_decide_eq_true (Bool.and_eq_true_iff.1 h).2) (by decide)
    · rw [eq_of_beq h]
      decide
  · rw [eq_of_beq h]
    decide

/-- The letters of ASCII have plain upper-case forms. -/
theorem uppercase_eq_map {s : List Char} (h : ∀ c ∈ s, c.toNat < 128) :
    Text.uppercase s = s.map Char.toUpper := by
  have hcodes : ∀ n < 128, Text.upperChar (Char.ofNat n) = [(Char.ofNat n).toUpper] := by
    decide +kernel
  rw [Text.uppercase, List.map_eq_flatMap]
  refine List.flatMap_congr fun c hc => ?_
  have hcode := hcodes c.toNat (h c hc)
  rwa [Char.ofNat_toNat] at hcode

/-! ### Tokens -/

namespace IsToken

variable {t u : List Char}

theorem ascii (h : IsToken t) : ∀ c ∈ t, c.toNat < 128 := by
  intro c hc
  obtain hname | rfl | rfl := h.mem hc
  · exact toNat_lt_of_isNameChar hname
  · decide
  · decide

/-- Tokens that differ in case at most share an entry. -/
theorem fold_eq (h : IsToken t) (h' : IsToken u) (hsame : t.map Char.toUpper = u.map Char.toUpper) :
    fold (String.ofList t) = fold (String.ofList u) := by
  rw [fold, fold, String.toList_ofList, String.toList_ofList, uppercase_eq_map h.ascii,
    uppercase_eq_map h'.ascii, hsame]

/-- A token is a name between its signs, with the suffix of types or without it. -/
theorem exists_ending (h : IsToken t) : ∃ name ending, t = '@' :: (name ++ ending) ∧ name ≠ [] ∧
    (∀ c ∈ name, isNameChar c = true) ∧ (ending = ['@'] ∨ ending = typeSuffix ++ ['@']) := by
  obtain ⟨name, hne, hname, rfl | rfl⟩ := h
  · exact ⟨name, _, rfl, hne, hname, .inl rfl⟩
  · exact ⟨name, _, by rw [List.append_assoc], hne, hname, .inr rfl⟩

theorem of_ending {name ending : List Char} (hne : name ≠ [])
    (hname : ∀ c ∈ name, isNameChar c = true)
    (hending : ending = ['@'] ∨ ending = typeSuffix ++ ['@']) :
    IsToken ('@' :: (name ++ ending)) := by
  rcases hending with rfl | rfl
  · exact ⟨name, hne, hname, .inl rfl⟩
  · exact ⟨name, hne, hname, .inr (by rw [List.append_assoc])⟩

/-- A name holds no percent sign. -/
theorem dropWhile_name {name : List Char} (hname : ∀ c ∈ name, isNameChar c = true)
    (ending : List Char) :
    ('@' :: (name ++ ending)).dropWhile (· != '%') = ending.dropWhile (· != '%') := by
  have hnot : ∀ c ∈ '@' :: name, (c != '%') = true := by
    intro c hc
    rw [bne_iff_ne]
    rintro rfl
    exact (List.mem_cons.1 hc).elim (by decide) fun hc => absurd (hname _ hc) (by decide)
  rw [← List.cons_append, List.dropWhile_append_of_pos hnot]

/-- A token in another case is a token exactly if it keeps its ending. -/
theorem respelled_iff (h : IsToken t) (hsame : t.map Char.toUpper = u.map Char.toUpper) :
    IsToken u ↔ t.dropWhile (· != '%') = u.dropWhile (· != '%') := by
  obtain ⟨name, ending, rfl, hne, hname, hending⟩ := h.exists_ending
  rw [List.map_cons, List.map_append] at hsame
  obtain ⟨c, rest, rfl, hc, hrest⟩ := List.map_eq_cons_iff.1 hsame.symm
  obtain ⟨name', ending', rfl, hname', hending'⟩ := List.map_eq_append_iff.1 hrest
  obtain rfl := toUpper_eq_at.1 hc
  -- case does not change whether a character belongs to a name
  have hrun : ∀ c ∈ name', isNameChar c = true := by
    intro c hc
    have hmem : c.toUpper ∈ name.map Char.toUpper := hname' ▸ List.mem_map_of_mem hc
    obtain ⟨d, hd, hupper⟩ := List.mem_map.1 hmem
    rw [← isNameChar_toUpper, ← hupper, isNameChar_toUpper, hname d hd]
  have hne' : name' ≠ [] := by
    rintro rfl
    exact hne (List.map_eq_nil_iff.1 hname'.symm)
  rw [dropWhile_name hname, dropWhile_name hrun]
  rcases hending with rfl | rfl
  · -- a closing sign is the same in any case
    obtain ⟨d, rfl, hd⟩ := List.map_eq_singleton_iff.1 hending'
    obtain rfl := toUpper_eq_at.1 hd
    exact iff_of_true (of_ending hne' hrun (.inl rfl)) rfl
  · obtain ⟨d, ending', rfl, hd, -⟩ := List.map_eq_cons_iff.1 hending'
    obtain rfl := toUpper_eq_percent.1 hd
    constructor
    · intro hu
      -- behind the name there is a percent sign, so the ending of the other token is a suffix too
      obtain ⟨name'', ending'', heq, -, hname'', hending''⟩ := hu.exists_ending
      have hdrop := (dropWhile_name hrun ('%' :: ending')).symm.trans
        ((congrArg _ heq).trans (dropWhile_name hname'' ending''))
      rw [hdrop]
      rcases hending'' with rfl | rfl
      · cases hdrop
      · rfl
    · intro heq
      exact of_ending hne' hrun (.inr heq.symm)

end IsToken

/-! ### Pieces -/

namespace Piece

/-- A token in another case, or the same character. -/
inductive Respelled : Piece → Piece → Prop
  | token {t u : List Char} (h : sameName (String.ofList t) (String.ofList u) = true) :
      Respelled (.token t) (.token u)
  | plain (c : Char) : Respelled (.plain c) (.plain c)

/-- Both pieces go on alike from the percent sign on, if there is one. -/
def SameSuffix (p q : Piece) : Prop :=
  p.text.dropWhile (· != '%') = q.text.dropWhile (· != '%')

instance (p q : Piece) : Decidable (SameSuffix p q) :=
  inferInstanceAs (Decidable (_ = _))

end Piece

variable {s : List Char} {ps qs : List Piece}

/-- Tokens in another case are tokens exactly if all of them keep their endings. -/
theorem respelled_tokens_iff (h : List.Forall₂ Piece.Respelled qs ps)
    (hqs : ∀ t, Piece.token t ∈ qs → IsToken t) :
    (∀ u, Piece.token u ∈ ps → IsToken u) ↔ List.Forall₂ Piece.SameSuffix qs ps := by
  induction h with
  | nil => simp
  | @cons q p qs ps hq _ ih =>
    rw [List.forall₂_cons, ← ih fun t ht => hqs t (List.mem_cons_of_mem _ ht)]
    cases hq with
    | @token t u hsame =>
      rw [sameName_ofList] at hsame
      have htoken := (hqs t List.mem_cons_self).respelled_iff hsame
      simp only [List.mem_cons, Piece.token.injEq, forall_eq_or_imp]
      exact and_congr htoken .rfl
    | plain c => simp [Piece.SameSuffix]

/-- What begins with a commercial at and goes on up to the next one is no part of a token, so it
    stands in both texts. -/
theorem prefix_of_respelled (h : List.Forall₂ Piece.Respelled qs ps)
    (hqs : ∀ t, Piece.token t ∈ qs → IsToken t) (hps : ∀ u, Piece.token u ∈ ps → IsToken u)
    {body : List Char} (hbody : '@' ∉ body) (hstart : body ++ ['@'] <+: ps.flatMap Piece.text) :
    body ++ ['@'] <+: qs.flatMap Piece.text := by
  induction h generalizing body with
  | nil => exact hstart
  | @cons q p qs ps hq _ ih =>
    have hqs' := fun t ht => hqs t (List.mem_cons_of_mem _ ht)
    have hps' := fun t ht => hps t (List.mem_cons_of_mem _ ht)
    rw [List.flatMap_cons] at hstart ⊢
    cases hq with
    | @token t u _ =>
      -- a token begins with `@`, so the stretch in front of the next `@` is empty here
      obtain ⟨t', rfl⟩ := (hqs t List.mem_cons_self).head
      obtain ⟨u', rfl⟩ := (hps u List.mem_cons_self).head
      cases body with
      | nil => exact List.cons_prefix_cons.2 ⟨rfl, List.nil_prefix⟩
      | cons c body =>
        obtain ⟨rfl, -⟩ := List.cons_prefix_cons.1 hstart
        exact absurd List.mem_cons_self hbody
    | plain d =>
      cases body with
      | nil =>
        obtain ⟨rfl, -⟩ := List.cons_prefix_cons.1 hstart
        exact List.cons_prefix_cons.2 ⟨rfl, List.nil_prefix⟩
      | cons c body =>
        obtain ⟨rfl, hrest⟩ := List.cons_prefix_cons.1 hstart
        rw [List.mem_cons, not_or] at hbody
        exact List.cons_prefix_cons.2 ⟨rfl, ih hqs' hps' hbody.2 hrest⟩

/-- A text whose tokens are written in another case has the pieces that were put in. -/
theorem Scans.respelled (hscan : Scans s qs) (h : List.Forall₂ Piece.Respelled qs ps)
    (hps : ∀ u, Piece.token u ∈ ps → IsToken u) : Scans (ps.flatMap Piece.text) ps := by
  induction hscan generalizing ps with
  | done =>
    cases h
    exact .done
  | @token t rest qs _ _ ih =>
    cases h with
    | @cons _ p _ ps hp htail =>
      have hps' := fun t ht => hps t (List.mem_cons_of_mem _ ht)
      cases hp with
      | token _ => exact .token (hps _ List.mem_cons_self) (ih htail hps')
  | @plain c rest qs hc hrest ih =>
    cases h with
    | @cons _ p _ ps hp htail =>
      have hps' := fun t ht => hps t (List.mem_cons_of_mem _ ht)
      cases hp with
      | plain _ =>
        refine .plain (fun u hu hstart => ?_) (ih htail hps')
        -- a token that began here would begin here in the first text, too
        obtain ⟨body, rfl, hbody⟩ := hu.between
        obtain ⟨rfl, hbegin⟩ := List.cons_prefix_cons.1 hstart
        have hqs : ∀ t, Piece.token t ∈ qs → IsToken t := fun t ht =>
          isToken_of_mem_scan (s := rest) (hrest.eq_scan ▸ ht)
        have hfirst := prefix_of_respelled htail hqs hps' hbody hbegin
        rw [scans_text hrest] at hfirst
        exact hc _ hu (List.cons_prefix_cons.2 ⟨rfl, hfirst⟩)

/-! ### Resolving -/

variable {text : String} {table : Table}

/-- Where all tokens are known, none can overlap with an unknown one. -/
theorem not_overlaps_of_known (h : ∀ token ∈ tokens text, (table.get? token).isSome) :
    ¬ Overlaps (Replaced text table) (scan text.toList) := by
  rintro ⟨t, rest, u, hsuffix, hunknown, -⟩
  have hmem : String.ofList t ∈ tokens text := by
    rw [mem_tokens, String.toList_ofList]
    exact hsuffix.subset List.mem_cons_self
  exact hunknown ⟨hmem, h _ hmem⟩

/-- Where all tokens are known, all of them are replaced. -/
theorem resolve_of_known (h : ∀ token ∈ tokens text, (table.get? token).isSome) :
    resolve text table = (String.ofList ((scan text.toList).flatMap (filled table)), []) := by
  refine Prod.ext ?_ (List.eq_nil_iff_forall_not_mem.2 fun token hmem => ?_)
  · rw [← String.toList_inj, String.toList_ofList]
    exact resolve_of_not_overlaps (not_overlaps_of_known h)
  · obtain ⟨htoken, hnone⟩ := mem_unknown.1 hmem
    have hsome := h token htoken
    rw [hnone] at hsome
    cases hsome

/-- Tokens that are spelled alike up to case are filled in alike. -/
theorem filled_respelled (h : List.Forall₂ Piece.Respelled qs ps)
    (hqs : ∀ t, Piece.token t ∈ qs → IsToken t ∧ (table.get? (String.ofList t)).isSome)
    (hps : ∀ u, Piece.token u ∈ ps → IsToken u) :
    (∀ u, Piece.token u ∈ ps → (table.get? (String.ofList u)).isSome) ∧
      ps.flatMap (filled table) = qs.flatMap (filled table) := by
  induction h with
  | nil => exact ⟨nofun, rfl⟩
  | @cons q p qs ps hq _ ih =>
    obtain ⟨hknown, hfilled⟩ := ih (fun t ht => hqs t (List.mem_cons_of_mem _ ht))
      fun t ht => hps t (List.mem_cons_of_mem _ ht)
    cases hq with
    | plain c =>
      refine ⟨fun u hu => ?_, by rw [List.flatMap_cons, List.flatMap_cons, hfilled]⟩
      rcases List.mem_cons.1 hu with hu | hu
      · cases hu
      · exact hknown u hu
    | @token t u hsame =>
      obtain ⟨ht, hsome⟩ := hqs t List.mem_cons_self
      have hu := hps u List.mem_cons_self
      -- a table looks a token up by its folded spelling, which is the same for both
      have hget : table.get? (String.ofList u) = table.get? (String.ofList t) := by
        rw [Table.get?, Table.get?, ht.fold_eq hu (sameName_ofList.1 hsame)]
      obtain ⟨value, hvalue⟩ := Option.isSome_iff_exists.1 hsome
      refine ⟨fun v hv => ?_, ?_⟩
      · rcases List.mem_cons.1 hv with hv | hv
        · cases hv
          rw [hget, hsome]
        · exact hknown v hv
      · rw [List.flatMap_cons, List.flatMap_cons, hfilled, filled, filled, hget, hvalue]
        rfl

/-- If the tokens of a text are written in another case, they are met again exactly if all of them
    keep their endings, and then the text is resolved as before. One that does not keep its ending
    is no token of the new text. -/
theorem resolve_respelled (hknown : ∀ token ∈ tokens text, (table.get? token).isSome)
    (h : List.Forall₂ Piece.Respelled (scan text.toList) ps) :
    (scan (ps.flatMap Piece.text) = ps ↔ List.Forall₂ Piece.SameSuffix (scan text.toList) ps) ∧
      (List.Forall₂ Piece.SameSuffix (scan text.toList) ps →
        resolve (String.ofList (ps.flatMap Piece.text)) table = ((resolve text table).1, [])) ∧
      ∀ t u, (Piece.token t, Piece.token u) ∈ (scan text.toList).zip ps →
        ¬ Piece.SameSuffix (.token t) (.token u) →
          Piece.token u ∉ scan (ps.flatMap Piece.text) := by
  have hqs : ∀ t, Piece.token t ∈ scan text.toList → IsToken t := fun _ => isToken_of_mem_scan
  have htokens := respelled_tokens_iff h hqs
  have hscan : (∀ u, Piece.token u ∈ ps → IsToken u) → scan (ps.flatMap Piece.text) = ps :=
    fun hps => ((scans_scan text.toList).respelled h hps).eq_scan.symm
  refine ⟨?_, fun hsuffix => ?_, fun t u hmem hne hu => ?_⟩
  · rw [← htokens]
    refine ⟨fun heq u hu => ?_, hscan⟩
    rw [← heq] at hu
    exact isToken_of_mem_scan hu
  · have hps := htokens.2 hsuffix
    have hall : ∀ t, Piece.token t ∈ scan text.toList →
        IsToken t ∧ (table.get? (String.ofList t)).isSome := fun t ht => by
      refine ⟨hqs t ht, hknown _ ?_⟩
      rwa [mem_tokens, String.toList_ofList]
    obtain ⟨hknown', hfilled⟩ := filled_respelled h hall hps
    have hjoined : ∀ token ∈ tokens (String.ofList (ps.flatMap Piece.text)),
        (table.get? token).isSome := by
      intro token hmem
      rw [mem_tokens, String.toList_ofList, hscan hps] at hmem
      have hsome := hknown' _ hmem
      rwa [String.ofList_toList] at hsome
    rw [resolve_of_known hknown, resolve_of_known hjoined, String.toList_ofList, hscan hps, hfilled]
  · -- a piece of the new text is a token only if it has kept its ending
    cases List.forall₂_zip h hmem with
    | token hsame =>
      have ht := hqs t (List.of_mem_zip hmem).1
      exact hne ((ht.respelled_iff (sameName_ofList.1 hsame)).1 (isToken_of_mem_scan hu))

/-- The values of a constant and of the type of a column. -/
def limits : Table :=
  .ofList [("@max@", "9"), ("@item.id%type@", "int(11)")]

/-- Two tokens that touch, both in another case, and a token that does not keep its ending. -/
theorem resolve_respelled_limits :
    (∀ token ∈ tokens "@max@@Item.id%type@;", (limits.get? token).isSome) ∧
      List.Forall₂ Piece.Respelled (scan "@max@@Item.id%type@;".toList)
        [.token "@MAX@".toList, .token "@item.ID%type@".toList, .plain ';'] ∧
      List.Forall₂ Piece.SameSuffix (scan "@max@@Item.id%type@;".toList)
        [.token "@MAX@".toList, .token "@item.ID%type@".toList, .plain ';'] ∧
      resolve "@MAX@@item.ID%type@;" limits = ("9int(11);", []) ∧
      Piece.token "@item.ID%Type@".toList ∉ scan "@max@@item.ID%Type@;".toList := by
  have hknown : ∀ token ∈ tokens "@max@@Item.id%type@;", (limits.get? token).isSome := by
    decide +kernel
  have hscan : scan "@max@@Item.id%type@;".toList =
      [.token "@max@".toList, .token "@Item.id%type@".toList, .plain ';'] := by decide +kernel
  have hpieces : List.Forall₂ Piece.Respelled (scan "@max@@Item.id%type@;".toList)
      [.token "@MAX@".toList, .token "@item.ID%type@".toList, .plain ';'] := by
    rw [hscan]
    exact .cons (.token (by decide +kernel)) (.cons (.token (by decide +kernel))
      (.cons (.plain ';') .nil))
  have hsuffix : List.Forall₂ Piece.SameSuffix (scan "@max@@Item.id%type@;".toList)
      [.token "@MAX@".toList, .token "@item.ID%type@".toList, .plain ';'] := by
    rw [hscan]
    exact .cons (by decide +kernel) (.cons (by decide +kernel) (.cons rfl .nil))
  have hresolved := (resolve_respelled hknown hpieces).2.1 hsuffix
  have hplain : (resolve "@max@@Item.id%type@;" limits).1 = "9int(11);" := by decide +kernel
  rw [hplain] at hresolved
  have hother : List.Forall₂ Piece.Respelled (scan "@max@@Item.id%type@;".toList)
      [.token "@max@".toList, .token "@item.ID%Type@".toList, .plain ';'] := by
    rw [hscan]
    exact .cons (.token (by decide +kernel)) (.cons (.token (by decide +kernel))
      (.cons (.plain ';') .nil))
  have hlost := (resolve_respelled hknown hother).2.2 "@Item.id%type@".toList
    "@item.ID%Type@".toList (by rw [hscan]; decide +kernel) (by decide +kernel)
  exact ⟨hknown, hpieces, hsuffix, hresolved, hlost⟩

/-- A token that is known loses its value when its ending is written in upper case, and nothing is
    reported. -/
theorem resolve_upper_ending :
    (∀ token ∈ tokens "@item.id%type@", (limits.get? token).isSome) ∧
      List.Forall₂ Piece.Respelled (scan "@item.id%type@".toList)
        [.token "@item.id%TYPE@".toList] ∧
      resolve "@item.id%type@" limits = ("int(11)", []) ∧
      (limits.get? "@item.id%TYPE@").isSome ∧
      resolve "@item.id%TYPE@" limits = ("@item.id%TYPE@", []) := by
  have hscan : scan "@item.id%type@".toList = [.token "@item.id%type@".toList] := by
    decide +kernel
  refine ⟨by decide +kernel, ?_, by decide +kernel, by decide +kernel, by decide +kernel⟩
  rw [hscan]
  exact .cons (.token (by decide +kernel)) .nil

end StoredRoutines.Placeholder
