import StoredRoutines.Placeholder.Token

/-!
# Scanning for tokens

The tokens of a text are found in one scan from left to right: where a token begins it is taken as
a whole, and everywhere else the scan moves on by one character.

## Main definitions

- `IsToken` — the texts that are written like a token
- `Scans` — the scan, as a relation between a text and its pieces

## Main results

- `scans_iff` — every text is scanned in exactly one way
-/

namespace StoredRoutines.Placeholder

/-- A name between two commercial ats, with the ending of a column type or without. -/
def IsToken (t : List Char) : Prop :=
  ∃ name, name ≠ [] ∧ (∀ c ∈ name, isNameChar c = true) ∧
    (t = '@' :: (name ++ ['@']) ∨ t = '@' :: (name ++ typeSuffix ++ ['@']))

theorem isToken_of_token? {s t : List Char} (h : token? s = some t) : IsToken t := by
  unfold token? at h
  split at h
  · next rest =>
    have hname : ∀ c ∈ rest.takeWhile isNameChar, isNameChar c = true :=
      fun c hc => List.all_eq_true.1 List.all_takeWhile c hc
    simp only at h
    split at h
    · cases h
    · next hne =>
      rw [List.isEmpty_iff] at hne
      split at h
      · cases h
        exact ⟨_, hne, hname, .inl rfl⟩
      · cases h
        exact ⟨_, hne, hname, .inr rfl⟩
      · cases h
  · cases h

theorem token?_append {t : List Char} (h : IsToken t) (rest : List Char) :
    token? (t ++ rest) = some t := by
  obtain ⟨name, hne, hname, hshape⟩ := h
  -- the run of name characters ends where the name does, since neither '@' nor '%' belongs to one
  have hrun : ∀ c tail, isNameChar c = false →
      (name ++ c :: tail).takeWhile isNameChar = name ∧
        (name ++ c :: tail).dropWhile isNameChar = c :: tail := by
    intro c tail hc
    constructor
    · rw [List.takeWhile_append_of_pos hname, List.takeWhile_cons, hc]
      simp
    · rw [List.dropWhile_append_of_pos hname, List.dropWhile_cons, hc]
      simp
  have hempty : name.isEmpty = false := by simpa using hne
  rcases hshape with rfl | rfl
  · obtain ⟨htake, hdrop⟩ := hrun '@' rest (by decide)
    simp [token?, htake, hdrop, hempty]
  · obtain ⟨htake, hdrop⟩ := hrun '%' ('t' :: 'y' :: 'p' :: 'e' :: '@' :: rest) (by decide)
    simp [token?, typeSuffix, htake, hdrop, hempty]

/-- At each place at most one token begins. -/
theorem token?_eq_some_iff {s t : List Char} : token? s = some t ↔ IsToken t ∧ t <+: s := by
  constructor
  · intro h
    exact ⟨isToken_of_token? h, token?_isPrefix h⟩
  · rintro ⟨h, rest, rfl⟩
    exact token?_append h rest

/-- No token is read exactly if none begins there. -/
theorem token?_eq_none_iff {s : List Char} : token? s = none ↔ ∀ t, IsToken t → ¬ t <+: s := by
  rw [Option.eq_none_iff_forall_ne_some]
  constructor
  · intro h t ht hprefix
    exact h t (token?_eq_some_iff.2 ⟨ht, hprefix⟩)
  · intro h t ht
    obtain ⟨htoken, hprefix⟩ := token?_eq_some_iff.1 ht
    exact h t htoken hprefix

namespace IsToken

variable {t : List Char}

theorem head (h : IsToken t) : ∃ rest, t = '@' :: rest := by
  obtain ⟨name, -, -, rfl | rfl⟩ := h
  · exact ⟨_, rfl⟩
  · exact ⟨_, rfl⟩

theorem ne_nil (h : IsToken t) : t ≠ [] := by
  obtain ⟨rest, rfl⟩ := h.head
  exact List.cons_ne_nil _ _

theorem mem (h : IsToken t) {c : Char} (hc : c ∈ t) :
    isNameChar c = true ∨ c = '@' ∨ c = '%' := by
  obtain ⟨name, -, hname, rfl | rfl⟩ := h
  · have hc : c = '@' ∨ c ∈ name ∨ c = '@' := by simpa using hc
    rcases hc with rfl | hc | rfl
    · exact .inr (.inl rfl)
    · exact .inl (hname c hc)
    · exact .inr (.inl rfl)
  · have hc : c = '@' ∨ c ∈ name ∨ c ∈ typeSuffix ∨ c = '@' := by
      simpa [or_assoc, or_comm, or_left_comm] using hc
    have hsuffix : typeSuffix.all (fun c => isNameChar c || c == '%') = true := by decide
    rcases hc with rfl | hc | hc | rfl
    · exact .inr (.inl rfl)
    · exact .inl (hname c hc)
    · rcases Bool.or_eq_true_iff.1 (List.all_eq_true.1 hsuffix c hc) with h | h
      · exact .inl h
      · exact .inr (.inr (eq_of_beq h))
    · exact .inr (.inl rfl)

/-- A token stands on one line. -/
theorem newline_notMem (h : IsToken t) : '\n' ∉ t := fun hmem =>
  absurd (h.mem hmem) (by decide)

end IsToken

/-- The pieces of a text, in one scan from left to right. -/
inductive Scans : List Char → List Piece → Prop where
  /-- The end of the text. -/
  | done : Scans [] []
  /-- A token is taken as a whole. -/
  | token {t rest : List Char} {ps : List Piece} (ht : IsToken t) (hrest : Scans rest ps) :
      Scans (t ++ rest) (.token t :: ps)
  /-- Where no token begins, the scan moves on by one character. -/
  | plain {c : Char} {rest : List Char} {ps : List Piece}
      (hc : ∀ t, IsToken t → ¬ t <+: c :: rest) (hrest : Scans rest ps) :
      Scans (c :: rest) (.plain c :: ps)

/-- The scan finds what the one-pass rules find. -/
theorem scans_scan (s : List Char) : Scans s (scan s) := by
  match s with
  | [] => exact .done
  | c :: rest =>
    match h : token? (c :: rest) with
    | none =>
      rw [scan_plain h]
      exact .plain (token?_eq_none_iff.1 h) (scans_scan rest)
    | some t =>
      obtain ⟨ht, tail, htail⟩ := token?_eq_some_iff.1 h
      have hpos : 0 < t.length := List.length_pos_iff.2 ht.ne_nil
      rw [scan_token h, ← htail, List.drop_left]
      exact .token ht (scans_scan tail)
  termination_by s.length
  decreasing_by
    · simp
    · rw [← htail, List.length_append]
      omega

/-- The one-pass rules find nothing else. -/
theorem Scans.eq_scan {s : List Char} {ps : List Piece} (h : Scans s ps) : ps = scan s := by
  induction h with
  | done => rfl
  | token ht hrest ih => rw [scan_token (token?_append ht _), List.drop_left, ih]
  | plain hc hrest ih => rw [scan_plain (token?_eq_none_iff.2 hc), ih]

theorem scans_iff {s : List Char} {ps : List Piece} : Scans s ps ↔ ps = scan s := by
  constructor
  · exact Scans.eq_scan
  · rintro rfl
    exact scans_scan s

/-- A text without a commercial at holds no token. -/
theorem scan_append_of_notMem {s : List Char} (h : '@' ∉ s) (rest : List Char) :
    scan (s ++ rest) = s.map Piece.plain ++ scan rest := by
  induction s with
  | nil => rfl
  | cons c s ih =>
    have hc : token? (c :: (s ++ rest)) = none := by
      refine token?_eq_none_iff.2 fun t ht hprefix => ?_
      obtain ⟨u, rfl⟩ := ht.head
      obtain ⟨rfl, -⟩ := List.cons_prefix_cons.1 hprefix
      exact h List.mem_cons_self
    rw [List.cons_append, scan_plain hc, ih fun hs => h (List.mem_cons_of_mem _ hs)]
    rfl

theorem isToken_of_mem_scan {s t : List Char} (h : Piece.token t ∈ scan s) : IsToken t := by
  have hscan := scans_scan s
  generalize scan s = ps at h hscan
  induction hscan with
  | done => cases h
  | token ht hrest ih =>
    rcases List.mem_cons.1 h with h | h
    · cases h
      exact ht
    · exact ih h
  | plain hc hrest ih =>
    rcases List.mem_cons.1 h with h | h
    · cases h
    · exact ih h

/-- The tokens of a text are those of its scan. -/
theorem mem_tokens {text token : String} :
    token ∈ tokens text ↔ Piece.token token.toList ∈ scan text.toList := by
  unfold tokens
  rw [List.mem_filterMap]
  constructor
  · rintro ⟨piece, hpiece, hmap⟩
    cases piece with
    | plain c => cases hmap
    | token t =>
      obtain rfl := Option.some.inj hmap
      rw [String.toList_ofList]
      exact hpiece
  · intro h
    refine ⟨_, h, ?_⟩
    simp [Piece.token?]

theorem isToken_of_mem_tokens {text token : String} (h : token ∈ tokens text) :
    IsToken token.toList :=
  isToken_of_mem_scan (mem_tokens.1 h)

end StoredRoutines.Placeholder
