import Mathlib.Data.List.Basic
import Mathlib.Data.List.TakeWhile
import Mathlib.Tactic.MkIffOfInductiveProp
import StoredRoutines.Text.Blank

/-!
# White space and words

White space divides a text into parts. A recogniser takes the longest run of a class from the front
of a text, and white space is such a run.

## Main definitions

- `Ends` — nothing follows, or white space does
- `IsRun` — a text of at least one character, all of one class
- `IsTidy` — a text of one line without white space at either end
- `parts` — the parts of a text between white space
- `Leads` — the part that a text begins with, and what follows it

## Main results

- `trim_eq_self_iff` — the texts without white space at either end
- `afterBlanks?_eq_some_iff`, `afterBlanks?_eq_some_iff_gap` — what follows white space
- `parts_eq_cons_iff` — the parts of a text, one by one
-/

namespace StoredRoutines.Text

variable {s t rest word : List Char} {ws : List (List Char)}

/-! ### White space -/

/-- The code points of all white space characters. -/
def blankCodes : List Nat :=
  blanks.flatMap fun (first, last) => List.range' first (last + 1 - first)

/-- A class that holds no white space is disjoint from it. -/
theorem isBlank_eq_false {p : Char → Bool}
    (h : ∀ n ∈ blankCodes, p (Char.ofNat n) = false) {c : Char} (hc : p c = true) :
    isBlank c = false := by
  by_contra hblank
  rw [Bool.not_eq_false] at hblank
  obtain ⟨⟨first, last⟩, hrange, hfirst, hlast⟩ := exists_of_inRanges hblank
  have hmem : c.toNat ∈ blankCodes := by
    refine List.mem_flatMap.2 ⟨_, hrange, List.mem_range'_1.2 ⟨hfirst, ?_⟩⟩
    simp only at hfirst hlast ⊢
    omega
  have hnot := h _ hmem
  rw [Char.ofNat_toNat, hc] at hnot
  cases hnot

/-- The longest run of a class is read off the front of a text. -/
theorem span_append {p : Char → Bool} {run : List Char} (hrun : ∀ c ∈ run, p c = true)
    (rest : List Char) (hrest : ∀ c ∈ rest.head?, p c = false) :
    (run ++ rest).takeWhile p = run ∧ (run ++ rest).dropWhile p = rest := by
  rw [List.takeWhile_append_of_pos hrun, List.dropWhile_append_of_pos hrun]
  cases rest with
  | nil => simp
  | cons c rest => simp [hrest c rfl]

/-- A run of a class ends at a character of another one. -/
theorem head_dropWhile (p : Char → Bool) (s : List Char) :
    ∀ c ∈ (s.dropWhile p).head?, p c = false := by
  intro c hc
  have hstop := List.head?_dropWhile_not p s
  rw [hc] at hstop
  exact hstop

/-- A text that begins with something else than white space has none to lose. -/
theorem trimStart_eq_self {s : List Char} (h : ∀ c ∈ s.head?, isBlank c = false) :
    trimStart s = s := by
  cases s with
  | nil => rfl
  | cons c s => rw [trimStart_cons, h c rfl, if_neg Bool.false_ne_true]

/-- A single space in front of such a text is all that is trimmed. -/
theorem trimStart_space {s : List Char} (h : ∀ c ∈ s.head?, isBlank c = false) :
    trimStart (' ' :: s) = s := by
  rw [trimStart_cons, if_pos (by decide), trimStart_eq_self h]

/-- What is left behind the white space does not begin with any. -/
theorem head_trimStart (s : List Char) : ∀ c ∈ (trimStart s).head?, isBlank c = false :=
  head_dropWhile isBlank s

/-- White space in front of a text that begins with something else is what is trimmed. -/
theorem trimStart_append {lead t : List Char} (hlead : lead.all isBlank = true)
    (ht : ∀ c ∈ t.head?, isBlank c = false) : trimStart (lead ++ t) = t := by
  rw [trimStart, List.dropWhile_append_of_pos (List.all_eq_true.1 hlead)]
  exact trimStart_eq_self ht

/-- A text is its leading white space and what is left without it. -/
theorem exists_trimStart (s : List Char) :
    ∃ lead, lead.all isBlank = true ∧ s = lead ++ trimStart s :=
  ⟨s.takeWhile isBlank, List.all_takeWhile, List.takeWhile_append_dropWhile.symm⟩

/-- Nothing is left exactly of texts of nothing but white space. -/
theorem trimStart_eq_nil_iff : trimStart s = [] ↔ s.all isBlank = true := by
  rw [trimStart, List.dropWhile_eq_nil_iff, List.all_eq_true]

/-- A text is its trimmed form exactly if it neither begins nor ends with white space. -/
theorem trim_eq_self_iff {s : List Char} :
    trim s = s ↔ (∀ c ∈ s.head?, isBlank c = false) ∧ ∀ c ∈ s.getLast?, isBlank c = false := by
  have hhead : ∀ {t : List Char}, trimStart t = t → ∀ c ∈ t.head?, isBlank c = false := by
    intro t ht c hc
    obtain ⟨u, rfl⟩ := List.head?_eq_some_iff.1 hc
    by_contra hblank
    rw [Bool.not_eq_false] at hblank
    rw [trimStart_cons, if_pos hblank] at ht
    have hshort : (trimStart u).length ≤ u.length := (List.dropWhile_suffix isBlank).length_le
    rw [ht, List.length_cons] at hshort
    omega
  constructor
  · intro h
    have hstart : trimStart s = s := by
      have hle := (trimEnd_isPrefix (trimStart s)).length_le
      rw [← trim, h] at hle
      exact (List.dropWhile_suffix isBlank).eq_of_length_le hle
    refine ⟨hhead hstart, ?_⟩
    rw [trim, hstart, trimEnd, List.reverse_eq_iff] at h
    rw [← List.head?_reverse]
    exact hhead h
  · rintro ⟨hfirst, hlast⟩
    rw [← List.head?_reverse] at hlast
    have hend : s.reverse.dropWhile isBlank = s.reverse := trimStart_eq_self hlast
    rw [trim, trimStart_eq_self hfirst, trimEnd, hend, List.reverse_reverse]

/-! ### Words -/

/-- A text of at least one character, all of one class. -/
@[mk_iff]
structure IsRun (p : Char → Bool) (text : String) : Prop where
  ne_empty : text ≠ ""
  all : ∀ c ∈ text.toList, p c = true

instance (p : Char → Bool) (text : String) : Decidable (IsRun p text) :=
  decidable_of_iff (text ≠ "" ∧ text.toList.all p = true) (by rw [isRun_iff, List.all_eq_true])

namespace IsRun

variable {p : Char → Bool} {text : String}

theorem toList_ne_nil (h : IsRun p text) : text.toList ≠ [] := by
  rw [Ne, String.toList_eq_nil_iff]
  exact h.ne_empty

theorem head_append (h : IsRun p text) (rest : List Char) :
    ∀ c ∈ (text.toList ++ rest).head?, p c = true := by
  intro c hc
  rw [List.head?_append_of_ne_nil _ h.toList_ne_nil] at hc
  exact h.all c (List.mem_of_mem_head? hc)

end IsRun

/-- A text of one line that begins and ends with something other than white space. -/
@[mk_iff]
structure IsTidy (text : String) : Prop where
  ne_empty : text ≠ ""
  trimmed : trim text.toList = text.toList
  newline_notMem : '\n' ∉ text.toList

instance (text : String) : Decidable (IsTidy text) :=
  decidable_of_iff' _ (isTidy_iff text)

theorem IsTidy.head {text : String} (h : IsTidy text) :
    ∀ c ∈ text.toList.head?, isBlank c = false :=
  (trim_eq_self_iff.1 h.trimmed).1

theorem IsRun.isTidy {p : Char → Bool} {text : String} (h : IsRun p text)
    (hp : ∀ c, p c = true → isBlank c = false) : IsTidy text where
  ne_empty := h.ne_empty
  trimmed := trim_eq_self_iff.2
    ⟨fun c hc => hp c (h.all c (List.mem_of_mem_head? hc)),
      fun c hc => hp c (h.all c (List.mem_of_mem_getLast? hc))⟩
  newline_notMem hmem := by
    have hblank := hp _ (h.all _ hmem)
    exact absurd hblank (by decide)

theorem toList_spaced (first second : String) :
    (first ++ " " ++ second).toList = first.toList ++ ' ' :: second.toList := by
  rw [String.toList_append, String.toList_append, List.append_assoc]
  rfl

theorem IsTidy.spaced {first second : String} (h : IsTidy first) (h' : IsTidy second) :
    IsTidy (first ++ " " ++ second) := by
  have hfirst : first.toList ≠ [] := by
    rw [Ne, String.toList_eq_nil_iff]
    exact h.ne_empty
  have hsecond : second.toList ≠ [] := by
    rw [Ne, String.toList_eq_nil_iff]
    exact h'.ne_empty
  refine ⟨fun hempty => ?_, ?_, ?_⟩
  · rw [← String.toList_eq_nil_iff, toList_spaced] at hempty
    exact hfirst (List.append_eq_nil_iff.1 hempty).1
  · rw [toList_spaced, trim_eq_self_iff, List.head?_append_of_ne_nil _ hfirst]
    refine ⟨(trim_eq_self_iff.1 h.trimmed).1, ?_⟩
    rw [← List.singleton_append, ← List.append_assoc, List.getLast?_append_of_ne_nil _ hsecond]
    exact (trim_eq_self_iff.1 h'.trimmed).2
  · rw [toList_spaced]
    intro hmem
    rcases List.mem_append.1 hmem with hmem | hmem
    · exact h.newline_notMem hmem
    · rcases List.mem_cons.1 hmem with hspace | hmem
      · exact absurd hspace (by decide)
      · exact h'.newline_notMem hmem

/-- The longest run of a class that a text begins with, unless there is none. -/
theorem isRun_takeWhile {p : Char → Bool} (h : ¬ (s.takeWhile p).isEmpty = true) :
    IsRun p (String.ofList (s.takeWhile p)) := by
  refine ⟨by simpa using h, ?_⟩
  rw [String.toList_ofList]
  exact List.all_eq_true.1 List.all_takeWhile

/-! ### What follows white space -/

/-- Nothing follows, or white space does. -/
def Ends (rest : List Char) : Prop :=
  ∀ c ∈ rest.head?, isBlank c = true

/-- A text of nothing but white space ends a word. -/
theorem ends_of_all (h : rest.all isBlank = true) : Ends rest :=
  fun c hc => List.all_eq_true.1 h c (List.mem_of_mem_head? hc)

/-- White space is passed over as a whole, and there has to be some. -/
theorem afterBlanks?_eq_some_iff :
    afterBlanks? s = some t ↔ s ≠ [] ∧ Ends s ∧ t = trimStart s := by
  cases s with
  | nil => simp [afterBlanks?]
  | cons c s =>
    rw [afterBlanks?, trimStart_cons]
    by_cases hc : isBlank c = true
    · have hends : Ends (c :: s) := by rintro c ⟨⟩; exact hc
      rw [if_pos hc, if_pos hc, Option.some.injEq]
      exact ⟨fun h => ⟨List.cons_ne_nil _ _, hends, h.symm⟩, fun h => h.2.2.symm⟩
    · have hends : ¬ Ends (c :: s) := fun hends => hc (hends c rfl)
      rw [if_neg hc]
      exact iff_of_false (Option.some_ne_none t).symm fun h => hends h.2.1

/-- What is passed over is a run of white space, and the longest one. -/
theorem afterBlanks?_eq_some_iff_gap : afterBlanks? s = some rest ↔
    ∃ gap, IsRun isBlank gap ∧ s = gap.toList ++ rest ∧
      ∀ c ∈ rest.head?, isBlank c = false := by
  rw [afterBlanks?_eq_some_iff]
  constructor
  · rintro ⟨hne, hends, rfl⟩
    obtain ⟨lead, hlead, hs⟩ := exists_trimStart s
    refine ⟨String.ofList lead, ⟨?_, ?_⟩, ?_, head_trimStart s⟩
    · intro hempty
      -- without white space in front nothing would have been trimmed
      obtain rfl : lead = [] := by simpa using hempty
      obtain ⟨c, tail, rfl⟩ := List.exists_cons_of_ne_nil hne
      have hblank := hends c rfl
      have hsolid :=
        head_trimStart (c :: tail) c (by rw [← List.nil_append (trimStart _), ← hs]; rfl)
      rw [hblank] at hsolid
      cases hsolid
    · rw [String.toList_ofList]
      exact List.all_eq_true.1 hlead
    · rw [String.toList_ofList, ← hs]
  · rintro ⟨gap, hgap, rfl, hrest⟩
    refine ⟨?_, hgap.head_append rest, ?_⟩
    · exact fun hnil => hgap.toList_ne_nil (List.append_eq_nil_iff.1 hnil).1
    · rw [trimStart_append (List.all_eq_true.2 hgap.all) hrest]

/-- A single space is passed over. -/
theorem afterBlanks?_space (h : ∀ c ∈ s.head?, isBlank c = false) :
    afterBlanks? (' ' :: s) = some s :=
  afterBlanks?_eq_some_iff.2
    ⟨List.cons_ne_nil _ _, by rintro c ⟨⟩; decide, (trimStart_space h).symm⟩

/-! ### Parts -/

/-- The parts of a text between white space. -/
def parts (s : List Char) : List (List Char) :=
  (s.splitOnP isBlank).filter fun part => !part.isEmpty

/-- Behind white space a text begins with `word`, a part of it, and goes on with `rest`. -/
structure Leads (s word rest : List Char) : Prop where
  trimStart : trimStart s = word ++ rest
  ne_nil : word ≠ []
  solid : ∀ c ∈ word, isBlank c = false
  ends : Ends rest

theorem parts_cons_blank {c : Char} (h : isBlank c = true) (s : List Char) :
    parts (c :: s) = parts s := by
  rw [parts, List.splitOnP_cons_eq_if_modifyHead, if_pos h]
  rfl

theorem parts_trimStart (s : List Char) : parts (trimStart s) = parts s := by
  induction s with
  | nil => rfl
  | cons c s ih =>
    rw [trimStart_cons]
    split
    · next h => rw [ih, parts_cons_blank h]
    · rfl

theorem Leads.parts (h : Leads s word rest) : parts s = word :: parts rest := by
  have hsolid : ∀ c ∈ word, ¬ isBlank c = true := fun c hc => by simp [h.solid c hc]
  have hne : (!word.isEmpty) = true := by simpa using h.ne_nil
  rw [← parts_trimStart, h.trimStart]
  cases rest with
  | nil =>
    rw [List.append_nil, Text.parts, List.splitOnP_eq_singleton (by simpa using hsolid)]
    simp [hne, Text.parts]
  | cons c rest =>
    have hc : isBlank c = true := h.ends c rfl
    rw [parts_cons_blank hc, Text.parts, Text.parts,
      List.splitOnP_append_cons_of_forall_mem (by simpa using hsolid) _ hc, List.filter_cons,
      if_pos hne]

/-- A text with anything but white space begins with a part. -/
theorem exists_leads (h : trimStart s ≠ []) : ∃ word rest, Leads s word rest := by
  have hhead := List.head?_dropWhile_not isBlank s
  generalize hs : trimStart s = t at h
  rw [trimStart] at hs
  rw [hs] at hhead
  refine ⟨t.takeWhile fun c => !isBlank c, t.dropWhile fun c => !isBlank c, ?_, ?_, ?_, ?_⟩
  · rw [List.takeWhile_append_dropWhile, trimStart, hs]
  · cases t with
    | nil => exact absurd rfl h
    | cons c t =>
      simp only [List.head?_cons] at hhead
      simp [hhead]
  · intro c hc
    simpa using List.all_eq_true.1 (List.all_takeWhile (p := fun c => !isBlank c)) c hc
  · intro c hc
    have hstop := List.head?_dropWhile_not (fun c => !isBlank c) t
    rw [hc] at hstop
    simpa using hstop

theorem parts_eq_nil_iff : parts s = [] ↔ s.all isBlank = true := by
  rw [← trimStart_eq_nil_iff]
  constructor
  · intro h
    by_contra hne
    obtain ⟨word, rest, hleads⟩ := exists_leads hne
    rw [hleads.parts] at h
    cases h
  · intro h
    rw [← parts_trimStart, h]
    rfl

/-- The parts begin with a word if the word leads the text. -/
theorem parts_eq_cons_iff : parts s = word :: ws ↔ ∃ rest, Leads s word rest ∧ parts rest = ws := by
  constructor
  · intro h
    have hne : trimStart s ≠ [] := fun hnil => by
      rw [← parts_trimStart, hnil] at h
      cases h
    obtain ⟨word', rest, hleads⟩ := exists_leads hne
    rw [hleads.parts] at h
    obtain ⟨rfl, rfl⟩ := List.cons.inj h
    exact ⟨rest, hleads, rfl⟩
  · rintro ⟨rest, hleads, rfl⟩
    exact hleads.parts

/-- Between two parts of a text there is white space. -/
theorem afterBlanks?_of_leads {next : List Char} (h : Leads s word rest)
    (hrest : parts rest = next :: ws) : afterBlanks? rest = some (trimStart rest) := by
  refine afterBlanks?_eq_some_iff.2 ⟨?_, h.ends, rfl⟩
  rintro rfl
  cases hrest

end StoredRoutines.Text
