import Mathlib.Data.List.Forall2
import Mathlib.Logic.Relation
import StoredRoutines.Proofs.Placeholder.Resolve
import StoredRoutines.Proofs.Sorting

/-!
# The longest key first

Any map from texts to texts can be used for a substitution, whatever its keys have in common. At
every place of a line the longest key that begins there is replaced. The rules are tried in the
order of their weights in bytes, and since all keys in question begin at one place, the first that
matches is the longest in characters as well.

## Main definitions

- `Translates` — a text and its translation by the longest keys, as a relation
- `Round`, `Finishes` — the work on a line, round by round

## Main results

- `matching?_eq_some_iff` — the rule that is taken at a place
- `finishes_iff` — the work on a line ends, with the translation of the line
- `substitute_longest` — substitution by any map, line by line or over the whole text
-/

namespace StoredRoutines.Placeholder

/-! ### The longest key at a place -/

/-- The entry of a map whose key is the longest of those that a text begins with. -/
structure LongestAt (replace : SortedMap String) (s : List Char) (key value : String) : Prop where
  entry : replace.get? key = some value
  ne_empty : key ≠ ""
  begins : key.toList <+: s
  longest : ∀ other, (replace.get? other).isSome → other.toList <+: s → other.length ≤ key.length

/-- The translation of a text, from left to right: the longest key is replaced where one begins, and
    what is inserted is not looked at. Everywhere else a character is copied. -/
inductive Translates (replace : SortedMap String) : List Char → List Char → Prop
  | done : Translates replace [] []
  | replaced {key value : String} {rest out : List Char}
      (h : LongestAt replace (key.toList ++ rest) key value) (hrest : Translates replace rest out) :
      Translates replace (key.toList ++ rest) (value.toList ++ out)
  | copied {c : Char} {rest out : List Char}
      (h : ∀ key, key ≠ "" → (replace.get? key).isSome → ¬ key.toList <+: c :: rest)
      (hrest : Translates replace rest out) : Translates replace (c :: rest) (c :: out)

theorem prefix_eq_of_length_eq {s u v : List Char} (hu : u <+: s) (hv : v <+: s)
    (hlen : u.length = v.length) : u = v :=
  (List.prefix_of_prefix_length_le hu hv hlen.le).eq_of_length hlen

section

variable {replace : SortedMap String} {s out : List Char}

/-- The longest key is unique, and so is its value. -/
theorem LongestAt.unique {key value key' value' : String} (h : LongestAt replace s key value)
    (h' : LongestAt replace s key' value') : key = key' ∧ value = value' := by
  have hle := h.longest key' (by rw [h'.entry]; rfl) h'.begins
  have hge := h'.longest key (by rw [h.entry]; rfl) h.begins
  have hlen : key.toList.length = key'.toList.length := by
    rw [String.length_toList, String.length_toList]
    omega
  obtain rfl := String.toList_inj.1 (prefix_eq_of_length_eq h.begins h'.begins hlen)
  exact ⟨rfl, Option.some.inj (h.entry.symm.trans h'.entry)⟩

theorem LongestAt.toList_ne_nil {key value : String} (h : LongestAt replace s key value) :
    key.toList ≠ [] := by
  rw [Ne, String.toList_eq_nil_iff]
  exact h.ne_empty

/-- A text has one translation at most. -/
theorem Translates.unique {out' : List Char} (h : Translates replace s out)
    (h' : Translates replace s out') : out = out' := by
  induction h generalizing out' with
  | done =>
    generalize hs : ([] : List Char) = s at h'
    cases h' with
    | done => rfl
    | replaced hkey _ => exact absurd (List.append_eq_nil_iff.1 hs.symm).1 hkey.toList_ne_nil
    | copied _ _ => cases hs
  | @replaced key value rest out hkey _ ih =>
    generalize hs : key.toList ++ rest = s at h'
    cases h' with
    | done => exact absurd (List.append_eq_nil_iff.1 hs).1 hkey.toList_ne_nil
    | @replaced key' value' rest' out' hkey' hrest' =>
      -- both keys are the longest one at this place
      rw [← hs] at hkey'
      obtain ⟨rfl, rfl⟩ := hkey.unique hkey'
      obtain rfl := List.append_cancel_left hs
      rw [ih hrest']
    -- a character is kept only where no key begins
    | copied hc _ =>
      have hsome : (replace.get? key).isSome := by rw [hkey.entry]; rfl
      exact absurd (hs ▸ hkey.begins) (hc key hkey.ne_empty hsome)
  | @copied c rest out hc _ ih =>
    generalize hs : c :: rest = s at h'
    cases h' with
    | done => cases hs
    | @replaced key' value' rest' out' hkey' _ =>
      have hsome : (replace.get? key').isSome := by rw [hkey'.entry]; rfl
      rw [hs] at hc
      exact absurd hkey'.begins (hc key' hkey'.ne_empty hsome)
    | copied _ hrest' =>
      cases hs
      rw [ih hrest']

/-! ### The order of the rules -/

/-- The order of the rules is total and transitive. -/
theorem orders_precedes : Orders Rule.precedes where
  total a b := by
    simp only [Rule.precedes, Bool.or_eq_true, Bool.and_eq_true, decide_eq_true_eq, beq_iff_eq]
    rcases Nat.lt_trichotomy a.weight b.weight with h | h | h
    · exact .inr (.inl h)
    · rcases String.le_total (String.ofList a.key) (String.ofList b.key) with hle | hle
      · exact .inl (.inr ⟨h, hle⟩)
      · exact .inr (.inr ⟨h.symm, hle⟩)
    · exact .inl (.inl h)
  trans {a b c} hab hbc := by
    simp only [Rule.precedes, Bool.or_eq_true, Bool.and_eq_true, decide_eq_true_eq, beq_iff_eq]
      at hab hbc ⊢
    rcases hab with hab | ⟨hab, hle⟩ <;> rcases hbc with hbc | ⟨hbc, hle'⟩
    · exact .inl (by omega)
    · exact .inl (by omega)
    · exact .inl (by omega)
    · exact .inr ⟨hab.trans hbc, String.le_trans hle hle'⟩

theorem weight_le_of_precedes {a b : Rule} (h : a.precedes b = true) : b.weight ≤ a.weight := by
  simp only [Rule.precedes, Bool.or_eq_true, Bool.and_eq_true, decide_eq_true_eq, beq_iff_eq] at h
  omega

/-- Of two keys that begin at one place the one with more bytes is the one with more characters. -/
theorem length_le_of_byteLength_le {u v : List Char} (hu : u <+: s) (hv : v <+: s)
    (hle : Text.byteLength u ≤ Text.byteLength v) : u.length ≤ v.length := by
  rcases List.prefix_or_prefix_of_prefix hu hv with huv | ⟨w, rfl⟩
  · exact huv.length_le
  · rw [Text.byteLength_append] at hle
    have hw : w = [] := by
      by_contra hne
      have hpos := Text.byteLength_pos hne
      omega
    rw [hw, List.append_nil]

/-- Of the rules that match, the first weighs most. -/
theorem weight_le_of_matching? {r r' : Rule} (h : matching? (rules replace none) s = some r)
    (hr' : r' ∈ rules replace none) (hmatch : r'.key <+: s) : r'.weight ≤ r.weight := by
  obtain ⟨-, above, below, hsplit, hnone⟩ := List.find?_eq_some_iff_append.1 h
  have hsorted : (rules replace none).Pairwise fun a b => a.precedes b = true :=
    pairwise_sortBy orders_precedes _
  rw [hsplit] at hr' hsorted
  rcases List.mem_append.1 hr' with habove | hbelow
  · have hnot := hnone r' habove
    rw [List.isPrefixOf_iff_prefix.2 hmatch] at hnot
    cases hnot
  · rcases List.mem_cons.1 hbelow with rfl | hbelow
    · exact Nat.le_refl _
    · have hafter := (List.pairwise_append.1 hsorted).2.1
      exact weight_le_of_precedes ((List.pairwise_cons.1 hafter).1 r' hbelow)

/-- The rule that matches is the one of the longest key. -/
theorem longestAt_of_matching? {r : Rule} (h : matching? (rules replace none) s = some r) :
    ∃ key value, LongestAt replace s key value ∧ r = ⟨key.toList, .text value.toList⟩ := by
  have hprefix : r.key <+: s := by simpa using List.find?_some h
  obtain ⟨key, value, hget, hkey, rfl⟩ := mem_rules_none.1 (List.mem_of_find?_eq_some h)
  refine ⟨key, value, ⟨hget, hkey, hprefix, fun other hother hbegins => ?_⟩, rfl⟩
  by_cases hempty : other = ""
  · rw [hempty]
    exact Nat.zero_le _
  · obtain ⟨value', hvalue'⟩ := Option.isSome_iff_exists.1 hother
    have hmem := mem_rules_none.2 ⟨other, value', hvalue', hempty, rfl⟩
    have hweight := weight_le_of_matching? h hmem hbegins
    have hlen := length_le_of_byteLength_le hbegins hprefix hweight
    rwa [String.length_toList, String.length_toList] at hlen

/-- The rule that is taken at a place is that of the longest key. -/
theorem matching?_eq_some_iff {r : Rule} : matching? (rules replace none) s = some r ↔
    ∃ key value, LongestAt replace s key value ∧ r = ⟨key.toList, .text value.toList⟩ := by
  constructor
  · exact longestAt_of_matching?
  · rintro ⟨key, value, hkey, rfl⟩
    cases hm : matching? (rules replace none) s with
    | none =>
      have hmem := mem_rules_none.2 ⟨key, value, hkey.entry, hkey.ne_empty, rfl⟩
      have hprefix := List.isPrefixOf_iff_prefix.2 hkey.begins
      exact absurd hprefix (List.find?_eq_none.1 hm _ hmem)
    | some r =>
      obtain ⟨key', value', hkey', rfl⟩ := longestAt_of_matching? hm
      obtain ⟨rfl, rfl⟩ := hkey.unique hkey'
      rfl

/-- No rule matches exactly if no key begins there. -/
theorem matching?_eq_none_iff : matching? (rules replace none) s = none ↔
    ∀ key, key ≠ "" → (replace.get? key).isSome → ¬ key.toList <+: s := by
  unfold matching?
  rw [List.find?_eq_none]
  constructor
  · intro h key hkey hsome hprefix
    obtain ⟨value, hvalue⟩ := Option.isSome_iff_exists.1 hsome
    exact h _ (mem_rules_none.2 ⟨key, value, hvalue, hkey, rfl⟩)
      (List.isPrefixOf_iff_prefix.2 hprefix)
  · intro h r hr hprefix
    obtain ⟨key, value, hget, hkey, rfl⟩ := mem_rules_none.1 hr
    exact h key hkey (by rw [hget]; rfl) (List.isPrefixOf_iff_prefix.1 hprefix)

/-- The rules of a map translate a text by its longest keys. -/
theorem translates_translate (replace : SortedMap String) (line : Nat) (s : List Char) :
    Translates replace s (translate (rules replace none) line s) := by
  -- on the length of the text, since a key is passed over as a whole
  induction hlen : s.length using Nat.strongRecOn generalizing s with
  | ind n ih =>
  cases hm : matching? (rules replace none) s with
  | some r =>
    obtain ⟨key, value, hkey, rfl⟩ := matching?_eq_some_iff.1 hm
    have hne := hkey.toList_ne_nil
    have hpos := List.length_pos_iff.2 hne
    rw [translate_of_some hm hne]
    obtain ⟨rest, rfl⟩ := hkey.begins
    rw [List.length_append] at hlen
    rw [List.drop_left]
    exact .replaced hkey (ih rest.length (by omega) rest rfl)
  | none =>
    cases s with
    | nil => exact .done
    | cons c rest =>
      rw [List.length_cons] at hlen
      rw [translate_of_none hm]
      exact .copied (matching?_eq_none_iff.1 hm) (ih rest.length (by omega) rest rfl)

/-- The translation is the longest-key translation of the line, and there is no other. -/
theorem translates_iff (line : Nat) :
    Translates replace s out ↔ out = translate (rules replace none) line s := by
  constructor
  · intro h
    exact h.unique (translates_translate replace line s)
  · rintro rfl
    exact translates_translate replace line s

/-- Each line is translated by itself. -/
theorem forall₂_translates (replace : SortedMap String) (first : Nat) (lines : List (List Char)) :
    List.Forall₂ (Translates replace) lines
      ((lines.zipIdx first).map fun (line, number) =>
        translate (rules replace none) number line) := by
  induction lines generalizing first with
  | nil => exact .nil
  | cons line lines ih =>
    rw [List.zipIdx_cons, List.map_cons]
    exact .cons (translates_translate replace first line) (ih (first + 1))

end

/-! ### Round by round -/

/-- What is left of a line, and what has been written for the part before it. -/
structure Cursor where
  /-- The part of the line that has not been looked at. -/
  rest : List Char
  /-- The translation of the part before it. -/
  out : List Char

/-- One round of the work on a line: the key of the first rule that matches is replaced, or a
    character is copied. -/
inductive Round (rs : List Rule) (line : Nat) : Cursor → Cursor → Prop
  | replace {s out : List Char} {r : Rule} (hs : s ≠ []) (h : matching? rs s = some r) :
      Round rs line ⟨s, out⟩ ⟨s.drop r.key.length, out ++ r.insertion.on line⟩
  | copy {c : Char} {rest out : List Char} (h : matching? rs (c :: rest) = none) :
      Round rs line ⟨c :: rest, out⟩ ⟨rest, out ++ [c]⟩

/-- The work on a line comes to an end, and then `out` has been written. -/
def Finishes (rs : List Rule) (line : Nat) (s out : List Char) : Prop :=
  Relation.ReflTransGen (Round rs line) ⟨s, []⟩ ⟨[], out⟩

section

variable {rs : List Rule} {line : Nat} {before after : Cursor}

/-- A round shortens what is left, unless a rule has a key without characters. -/
theorem Round.length_lt (hkeys : ∀ r ∈ rs, r.key ≠ []) (h : Round rs line before after) :
    after.rest.length < before.rest.length := by
  cases h with
  | @replace s out r hs h =>
    have hkey := List.length_pos_iff.2 (hkeys r (List.mem_of_find?_eq_some h))
    have hpos := List.length_pos_iff.2 hs
    simp only [List.length_drop]
    omega
  | copy h => simp

/-- Rounds come to an end, unless a rule has a key without characters. -/
theorem wellFounded_round (hkeys : ∀ r ∈ rs, r.key ≠ []) (line : Nat) :
    WellFounded fun after before => Round rs line before after :=
  Subrelation.wf (fun h => h.length_lt hkeys) (measure fun c : Cursor => c.rest.length).wf

/-- A round leaves alone what the work on a line will come to. -/
theorem Round.translate_eq (hkeys : ∀ r ∈ rs, r.key ≠ []) (h : Round rs line before after) :
    after.out ++ translate rs line after.rest = before.out ++ translate rs line before.rest := by
  cases h with
  | @replace s out r hs h =>
    rw [translate_of_some h (hkeys r (List.mem_of_find?_eq_some h)), List.append_assoc]
  | copy h => rw [translate_of_none h, List.append_assoc, List.singleton_append]

/-- Whatever the rounds so far, the work on a line will come to the same. -/
theorem rounds_translate_eq (hkeys : ∀ r ∈ rs, r.key ≠ [])
    (h : Relation.ReflTransGen (Round rs line) before after) :
    after.out ++ translate rs line after.rest = before.out ++ translate rs line before.rest := by
  induction h with
  | refl => rfl
  | tail _ hround ih => rw [hround.translate_eq hkeys, ih]

/-- A round can be made as long as something is left. -/
theorem exists_round (rs : List Rule) (line : Nat) (h : before.rest ≠ []) :
    ∃ after, Round rs line before after := by
  obtain ⟨s, out⟩ := before
  cases hm : matching? rs s with
  | some r => exact ⟨_, .replace h hm⟩
  | none =>
    obtain ⟨c, rest, rfl⟩ := List.exists_cons_of_ne_nil h
    exact ⟨_, .copy hm⟩

/-- The rounds end with the translation. -/
theorem rounds_translate (hkeys : ∀ r ∈ rs, r.key ≠ []) (before : Cursor) :
    Relation.ReflTransGen (Round rs line) before
      ⟨[], before.out ++ translate rs line before.rest⟩ := by
  induction before using (wellFounded_round hkeys line).induction with
  | _ before ih =>
  by_cases hrest : before.rest = []
  · obtain ⟨s, out⟩ := before
    obtain rfl : s = [] := hrest
    rw [translate_nil, List.append_nil]
  · obtain ⟨after, hround⟩ := exists_round rs line hrest
    rw [← hround.translate_eq hkeys]
    exact .head hround (ih after hround)

/-- The work on a line ends, with the translation of the line. -/
theorem finishes_iff {s out : List Char} (hkeys : ∀ r ∈ rs, r.key ≠ []) :
    Finishes rs line s out ↔ out = translate rs line s := by
  constructor
  · intro h
    have hend := rounds_translate_eq hkeys h
    rwa [translate_nil, List.append_nil, List.nil_append] at hend
  · rintro rfl
    exact rounds_translate hkeys ⟨s, []⟩

end

/-- Whatever the keys of a map have in common, the work on a line ends, and every line is translated
    by the longest keys. If no key goes beyond its line, so is the text as a whole. -/
theorem substitute_longest (text : String) (replace : SortedMap String) :
    (∀ s, ∃! out, Translates replace s out) ∧
    (∀ number, WellFounded fun after before => Round (rules replace none) number before after) ∧
    (∀ number s out, Finishes (rules replace none) number s out ↔ Translates replace s out) ∧
    (∃ outs, List.Forall₂ (Translates replace) (Text.splitOn '\n' text.toList) outs ∧
      (substitute text replace none).toList = List.intercalate ['\n'] outs) ∧
    ((∀ key ∈ replace.keys, '\n' ∉ key.toList) → ∀ out,
      Translates replace text.toList out ↔ out = (substitute text replace none).toList) := by
  have hkeys : ∀ r ∈ rules replace none, r.key ≠ [] := by
    intro r hr
    obtain ⟨key, value, -, hkey, rfl⟩ := mem_rules_none.1 hr
    simpa using hkey
  refine ⟨fun s => ?_, wellFounded_round hkeys, fun number s out => ?_, ?_,
    fun hlines out => ?_⟩
  · exact ⟨_, translates_translate replace 0 s, fun out h => h.unique (translates_translate _ 0 s)⟩
  · rw [finishes_iff hkeys, translates_iff number]
  · exact ⟨_, forall₂_translates replace 1 _, String.toList_ofList⟩
  · have hinline : ∀ r ∈ rules replace none, r.Inline := by
      refine inline_of_mem_rules fun key value hget => hlines key ?_
      rw [SortedMap.mem_keys_iff, hget]
      rfl
    have htext := translate_lines hinline 0 1 (Text.splitOn '\n' text.toList)
    rw [Text.intercalate_splitOn] at htext
    rw [substitute, String.toList_ofList, htext, translates_iff 0]

/-- Keys that begin with one another or overlap, and one without characters. -/
def nestedKeys : SortedMap String :=
  .ofList [("", "-"), ("a", "1"), ("aé", "2"), ("éb", "a"), ("b", "aé")]

/-- The longest key is replaced even if a shorter one is followed by another key, and what has been
    inserted stays. -/
theorem substitute_longest_nested :
    (∀ key ∈ nestedKeys.keys, '\n' ∉ key.toList) ∧
      Translates nestedKeys "aéb\nacéb".toList "2aé\n1ca".toList := by
  have hkeys : ∀ key ∈ nestedKeys.keys, '\n' ∉ key.toList := by decide +kernel
  obtain ⟨-, -, -, -, hwhole⟩ := substitute_longest "aéb\nacéb" nestedKeys
  exact ⟨hkeys, (hwhole hkeys _).2 (by decide +kernel)⟩

end StoredRoutines.Placeholder
