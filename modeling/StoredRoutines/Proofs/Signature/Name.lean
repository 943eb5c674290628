import StoredRoutines.Proofs.Signature

/-!
# The names of signatures

The first signature of a text stands where its words can be read furthest to the left, and its name
goes on as long as there are characters of names. Two of these are not ASCII: with them a name is
read that is no identifier, or one where the identifier ends earlier.

## Main definitions

- `Signature.Reads` — a text begins with a signature, for any class of name characters
- `Signature.FirstReads` — the signature that can be read furthest to the left

## Main results

- `Signature.find?_eq_iff_firstReads`
- `Signature.find?_firstReads_ascii` — when the first signature is the one with an identifier
-/

namespace StoredRoutines

open Text (IsRun)

namespace Signature

variable {p : Char → Bool} {s : List Char} {signature : Signature}

/-- The ASCII characters of names: letters, digits and the low line. -/
def isAsciiNameChar (c : Char) : Bool :=
  c.isAlphanum || c == '_'

/-- A text begins with a signature: `create`, the kind and a name, with white space between them.
    The keywords may be in any case of ASCII letters. The name is made of characters of a class, and
    it ends where the next character is of another one. -/
inductive Reads (p : Char → Bool) : Signature → List Char → Prop
  | words {kind : RoutineKind} {create gap word gap' name : String} {rest : List Char}
      (hcreate : create.toList.map Char.toLower = "create".toList) (hgap : IsRun Text.isBlank gap)
      (hword : word.toList.map Char.toLower = kind.word.toList) (hgap' : IsRun Text.isBlank gap')
      (hname : IsRun p name) (hends : ∀ c ∈ rest.head?, p c = false) :
      Reads p ⟨kind, name⟩ (create.toList ++
        (gap.toList ++ (word.toList ++ (gap'.toList ++ (name.toList ++ rest)))))

/-- The signature that can be read in a text furthest to the left, or none if there is no position
    where one can be read. -/
def FirstReads (p : Char → Bool) (s : List Char) : Option Signature → Prop
  | some signature => ∃ before after, s = before ++ after ∧ Reads p signature after ∧
      ∀ u v, before = u ++ v → v ≠ [] → ∀ other, ¬ Reads p other (v ++ after)
  | none => ∀ before after, s = before ++ after → ∀ other, ¬ Reads p other after

theorem Reads.isRun (h : Reads p signature s) : IsRun p signature.name := by
  obtain ⟨-, -, -, -, hname, -⟩ := h
  exact hname

/-! ### All characters of names -/

/-- A signature is read exactly if its longest name is. -/
theorem atStart?_eq_some_iff_reads :
    atStart? s = some signature ↔ Reads isNameChar signature s := by
  rw [atStart?_eq_some_iff]
  constructor
  · rintro ⟨-, rest, rfl, ⟨hcreate, hgap, hword, hgap', hname⟩, hends⟩
    simp only [List.append_assoc]
    exact .words hcreate hgap hword hgap' hname hends
  · rintro ⟨hcreate, hgap, hword, hgap', hname, hends⟩
    refine ⟨_, _, ?_, .words hcreate hgap hword hgap' hname, hends⟩
    simp only [List.append_assoc]

theorem atStart?_eq_none_iff_reads :
    atStart? s = none ↔ ∀ other, ¬ Reads isNameChar other s := by
  simp only [Option.eq_none_iff_forall_ne_some, Ne, atStart?_eq_some_iff_reads]

/-- No signature is found exactly if none begins anywhere. -/
theorem findIn?_eq_none_iff :
    findIn? s = none ↔ ∀ before after, s = before ++ after → atStart? after = none := by
  induction s with
  | nil =>
    refine iff_of_true rfl ?_
    intro before after hs
    rw [(List.append_eq_nil_iff.1 hs.symm).2]
    rfl
  | cons c s ih =>
    cases hstart : atStart? (c :: s) with
    | some found =>
      rw [findIn?, hstart]
      refine iff_of_false (Option.some_ne_none found) ?_
      intro hnone
      rw [hnone [] (c :: s) rfl] at hstart
      cases hstart
    | none =>
      -- without one at the start the search goes on behind the first character
      rw [findIn?_cons_of_none hstart, ih]
      constructor
      · intro hnone before after hs
        cases before with
        | nil =>
          rw [List.nil_append] at hs
          rw [← hs]
          exact hstart
        | cons d before => exact hnone before after (List.cons.inj hs).2
      · intro hnone before after hs
        exact hnone (c :: before) after (congrArg (c :: ·) hs)

/-- The first signature of a text is the one that can be read furthest to the left. -/
theorem find?_eq_iff_firstReads {text : String} {found : Option Signature} :
    find? text = found ↔ FirstReads isNameChar text.toList found := by
  rw [find?]
  cases found with
  | none => simp only [findIn?_eq_none_iff, atStart?_eq_none_iff_reads, FirstReads]
  | some signature =>
    simp only [findIn?_eq_some_iff, atStart?_eq_some_iff_reads, atStart?_eq_none_iff_reads,
      FirstReads]

/-- The first signature of a text has a name. -/
theorem isRun_of_find? {text : String} (h : find? text = some signature) :
    IsRun isNameChar signature.name := by
  obtain ⟨-, after, -, hreads, -⟩ := find?_eq_iff_firstReads.1 h
  exact hreads.isRun

/-! ### ASCII names -/

/-- The ASCII characters of names are all but the two that are folded into them. -/
theorem isAsciiNameChar_iff {c : Char} :
    isAsciiNameChar c = true ↔ isNameChar c = true ∧ c ≠ 'ſ' ∧ c ≠ '\u212A' := by
  constructor
  · intro h
    refine ⟨by simpa [isNameChar, isAsciiNameChar, or_assoc] using Or.inl h, ?_, ?_⟩
    · rintro rfl
      exact absurd h (by decide)
    · rintro rfl
      exact absurd h (by decide)
  · rintro ⟨h, hs, hk⟩
    simpa [isNameChar, isAsciiNameChar, hs, hk] using h

/-- A name is ASCII exactly if it does without these two characters. -/
theorem isRun_isAsciiNameChar_iff {name : String} (h : IsRun isNameChar name) :
    IsRun isAsciiNameChar name ↔ 'ſ' ∉ name.toList ∧ '\u212A' ∉ name.toList := by
  constructor
  · intro hname
    exact ⟨fun hmem => (isAsciiNameChar_iff.1 (hname.all _ hmem)).2.1 rfl,
      fun hmem => (isAsciiNameChar_iff.1 (hname.all _ hmem)).2.2 rfl⟩
  · rintro ⟨hs, hk⟩
    refine ⟨h.ne_empty, ?_⟩
    intro c hc
    refine isAsciiNameChar_iff.2 ⟨h.all c hc, ?_, ?_⟩
    · rintro rfl
      exact hs hc
    · rintro rfl
      exact hk hc

/-- Where a signature with an identifier can be read, the name may go on, but a signature can be
    read as well. -/
theorem Reads.exists_isNameChar (h : Reads isAsciiNameChar signature s) :
    ∃ other, Reads isNameChar other s := by
  obtain ⟨hcreate, hgap, hword, hgap', hname, -⟩ := h
  rename_i kind create gap word gap' name rest
  have hall : IsRun isNameChar name :=
    ⟨hname.ne_empty, fun c hc => (isAsciiNameChar_iff.1 (hname.all c hc)).1⟩
  have hspells := Spells.words hcreate hgap hword hgap' hall
  obtain ⟨other, hother⟩ := Option.isSome_iff_exists.1 (atStart?_isSome_iff.2
    ⟨_, _, hspells, List.prefix_append _ rest⟩)
  rw [atStart?_eq_some_iff_reads] at hother
  simp only [List.append_assoc] at hother
  exact ⟨other, hother⟩

/-- A signature whose name is an identifier as a whole can be read with an identifier. -/
theorem Reads.isAsciiNameChar (h : Reads isNameChar signature s)
    (hname : IsRun isAsciiNameChar signature.name) : Reads isAsciiNameChar signature s := by
  obtain ⟨hcreate, hgap, hword, hgap', -, hends⟩ := h
  refine .words hcreate hgap hword hgap' hname ?_
  intro c hc
  by_contra hidentifier
  rw [Bool.not_eq_false, isAsciiNameChar_iff, hends c hc] at hidentifier
  cases hidentifier.1

/-- What is read with all characters of names is what is read with identifiers, unless there is a
    name that is no identifier. -/
theorem FirstReads.isAsciiNameChar_iff {found : Option Signature}
    (h : FirstReads isNameChar s found) :
    FirstReads isAsciiNameChar s found ↔
      ∀ signature ∈ found, IsRun isAsciiNameChar signature.name := by
  cases found with
  | none =>
    refine iff_of_true ?_ nofun
    intro before after hs other hreads
    obtain ⟨other', hother⟩ := hreads.exists_isNameChar
    exact h before after hs other' hother
  | some signature =>
    constructor
    · rintro ⟨-, after, -, hreads, -⟩ _ ⟨⟩
      exact hreads.isRun
    · intro hname
      obtain ⟨before, after, hs, hreads, hfirst⟩ := h
      refine ⟨before, after, hs, hreads.isAsciiNameChar (hname signature rfl), ?_⟩
      intro u v huv hv other hother
      obtain ⟨other', hother'⟩ := hother.exists_isNameChar
      exact hfirst u v huv hv other' hother'

/-- What is found in a text and accepted for a file. The first signature is read furthest to the
    left, with every character of names. It is the one that is read with ASCII letters, digits and
    low lines if there is neither a long s nor a Kelvin sign in its name, and then only; the same
    decides whether an accepted name is an identifier. -/
theorem find?_firstReads_ascii (text : String) :
    (∀ found, find? text = found ↔ FirstReads isNameChar text.toList found) ∧
    (FirstReads isAsciiNameChar text.toList (find? text) ↔
      ∀ signature ∈ find? text, 'ſ' ∉ signature.name.toList ∧ '\u212A' ∉ signature.name.toList) ∧
    ∀ expected signature, check text expected = .ok signature →
      IsRun isNameChar expected ∧
        (IsRun isAsciiNameChar expected ↔ 'ſ' ∉ expected.toList ∧ '\u212A' ∉ expected.toList) := by
  have hfound : FirstReads isNameChar text.toList (find? text) := find?_eq_iff_firstReads.1 rfl
  refine ⟨fun found => find?_eq_iff_firstReads, ?_, ?_⟩
  · rw [hfound.isAsciiNameChar_iff]
    exact forall₂_congr fun signature hsignature =>
      isRun_isAsciiNameChar_iff (isRun_of_find? hsignature)
  · intro expected signature hcheck
    obtain ⟨hfind, rfl⟩ := check_eq_ok_iff.1 hcheck
    have hname := isRun_of_find? hfind
    exact ⟨hname, isRun_isAsciiNameChar_iff hname⟩

/-- A signature behind words that begin like one. -/
theorem find?_firstReads_ascii_orderTotal :
    (∀ signature ∈ find? "create table; CREATE\u00a0Function order_total(p int)",
        'ſ' ∉ signature.name.toList ∧ '\u212A' ∉ signature.name.toList) ∧
      FirstReads isAsciiNameChar "create table; CREATE\u00a0Function order_total(p int)".toList
        (find? "create table; CREATE\u00a0Function order_total(p int)") ∧
      check "create table; CREATE\u00a0Function order_total(p int)" "order_total" =
        .ok ⟨.function, "order_total"⟩ ∧
      IsRun isAsciiNameChar "order_total" := by
  have hfind : find? "create table; CREATE\u00a0Function order_total(p int)" =
      some ⟨.function, "order_total"⟩ := by decide +kernel
  have hascii : ∀ signature ∈ find? "create table; CREATE\u00a0Function order_total(p int)",
      'ſ' ∉ signature.name.toList ∧ '\u212A' ∉ signature.name.toList := by
    rw [hfind]
    rintro _ ⟨⟩
    decide
  have hcheck : check "create table; CREATE\u00a0Function order_total(p int)" "order_total" =
      .ok ⟨.function, "order_total"⟩ := check_eq_ok_iff.2 ⟨hfind, rfl⟩
  obtain ⟨-, hreads, hname⟩ :=
    find?_firstReads_ascii "create table; CREATE\u00a0Function order_total(p int)"
  exact ⟨hascii, hreads.2 hascii, hcheck, (hname _ _ hcheck).2.2 ⟨by decide, by decide⟩⟩

/-- A long s is read as a letter of the name, and the name is accepted with it. Read with ASCII
    letters the name would end before. -/
theorem find?_long_s :
    FirstReads isAsciiNameChar "create procedure uſer()\nbegin\nend\n".toList
        (some ⟨.procedure, "u"⟩) ∧
      find? "create procedure uſer()\nbegin\nend\n" = some ⟨.procedure, "uſer"⟩ ∧
      check "create procedure uſer()\nbegin\nend\n" "uſer" = .ok ⟨.procedure, "uſer"⟩ ∧
      ¬ IsRun isAsciiNameChar "uſer" := by
  have hfind : find? "create procedure uſer()\nbegin\nend\n" = some ⟨.procedure, "uſer"⟩ := by
    decide +kernel
  have hreads : Reads isAsciiNameChar ⟨.procedure, "u"⟩
      "create procedure uſer()\nbegin\nend\n".toList :=
    @Reads.words isAsciiNameChar .procedure "create" " " "procedure" " " "u"
      "ſer()\nbegin\nend\n".toList (by decide) (by decide) (by decide) (by decide) (by decide)
      (by rintro c ⟨⟩; decide)
  refine ⟨⟨[], _, rfl, hreads, ?_⟩, hfind, check_eq_ok_iff.2 ⟨hfind, rfl⟩, by decide⟩
  intro u v huv hv
  exact absurd (List.append_eq_nil_iff.1 huv.symm).2 hv

end Signature

end StoredRoutines
