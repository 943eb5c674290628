import StoredRoutines.Placeholder.Substitution
import StoredRoutines.Proofs.Quoting

/-!
# Fragments

Where keys are replaced in a text does not depend on what replaces them. The text is therefore cut
into fragments first, and a location decides only what the places of its constants are filled
with.

## Main definitions

- `Site`, `Slot` — what a key stands for, before a location is known
- `slots` — the keys of a text in the order in which they are tried
- `Fragment`, `fragments` — the fragments of a text with the numbers of their lines
- `Uses` — a text has a place for a constant

## Main results

- `rules_eq` — the rules of a translation are those of the slots
- `substitute_toList` — the fragments, filled in, make up the text
- `substitute_eq_iff` — when two locations make the same text
-/

namespace StoredRoutines.Placeholder

/-- What a key stands for. -/
inductive Site where
  | value (text : List Char)
  | file
  | routine
  | dir
  | line
  deriving DecidableEq

/-- What is inserted for a key. -/
def Site.insertion (location : Location) : Site → Insertion
  | value text => .text text
  | file => .text location.file.toList
  | routine => .text location.routine.toList
  | dir => .text location.dir.toList
  | line => .lineNumber

/-- A key and what it stands for. -/
structure Slot where
  key : List Char
  site : Site
  deriving DecidableEq

/-- The rule that inserts at a location what the slot stands for. -/
def Slot.rule (location : Location) (s : Slot) : Rule :=
  ⟨s.key, s.site.insertion location⟩

/-- The order of the rules depends on their keys only. -/
def Slot.precedes (a b : Slot) : Bool :=
  Rule.precedes ⟨a.key, .lineNumber⟩ ⟨b.key, .lineNumber⟩

/-- The slots of the entries. An entry under the key of the line number stands for the number. -/
def entrySlots (replace : SortedMap String) : List Slot :=
  replace.entries.filterMap fun (key, value) =>
    if key.isEmpty then none
    else if key == lineKey then some ⟨key.toList, .line⟩
    else some ⟨key.toList, .value value.toList⟩

/-- The slots of the magic constants. -/
def constantSlots : List Slot :=
  [⟨fileKey.toList, .file⟩, ⟨routineKey.toList, .routine⟩, ⟨dirKey.toList, .dir⟩,
    ⟨lineKey.toList, .line⟩]

/-- All slots, in the order in which they are tried. -/
def slots (replace : SortedMap String) : List Slot :=
  sortBy Slot.precedes (entrySlots replace ++ constantSlots)

theorem entryRules_eq (replace : SortedMap String) (location : Location) :
    entryRules replace true = (entrySlots replace).map (Slot.rule location) := by
  rw [entryRules, entrySlots, List.map_filterMap]
  congr 1
  funext e
  obtain ⟨key, value⟩ := e
  simp only [Bool.true_and]
  by_cases hempty : key.isEmpty
  · simp [hempty]
  · by_cases hline : key == lineKey <;> simp [hempty, hline] <;> rfl

theorem rules_eq (replace : SortedMap String) (location : Location) :
    rules replace (some location) = (slots replace).map (Slot.rule location) := by
  have hsort : (slots replace).map (Slot.rule location) =
      sortBy Rule.precedes ((entrySlots replace ++ constantSlots).map (Slot.rule location)) := by
    have hkeys : ∀ a b : Slot,
        a.precedes b = Rule.precedes (a.rule location) (b.rule location) := fun _ _ => rfl
    exact map_sortBy hkeys _
  rw [hsort, List.map_append, ← entryRules_eq]
  rfl

/-! ### Fragments -/

/-- A part of a text: a character that stays, or a place that is filled. -/
inductive Fragment where
  | plain (c : Char)
  | site (s : Site)
  deriving DecidableEq

/-- The text of a fragment at a location and on a line. -/
def Fragment.render (location : Location) (line : Nat) : Fragment → List Char
  | plain c => [c]
  | site s => (s.insertion location).on line

/-- The fragments of a line, of which the first `covered` characters belong to a key. -/
def cutFrom (keys : List Slot) : Nat → List Char → List Fragment
  | _, [] => []
  | covered + 1, _ :: rest => cutFrom keys covered rest
  | 0, c :: rest =>
    match keys.find? fun k => k.key.isPrefixOf (c :: rest) with
    | some k => .site k.site :: cutFrom keys (k.key.length - 1) rest
    | none => .plain c :: cutFrom keys 0 rest

/-- The fragments of numbered lines, with the ends of the lines between them. -/
def weave (keys : List Slot) : List (List Char × Nat) → List (Nat × Fragment)
  | [] => []
  | [(line, number)] => (cutFrom keys 0 line).map fun f => (number, f)
  | (line, number) :: next :: rest =>
    ((cutFrom keys 0 line).map fun f => (number, f)) ++
      (number, .plain '\n') :: weave keys (next :: rest)

/-- A text as fragments, each with the number of its line. -/
def fragments (text : String) (replace : SortedMap String) : List (Nat × Fragment) :=
  weave (slots replace) ((Text.splitOn '\n' text.toList).zipIdx 1)

/-- A translated line is its fragments, each rendered for the line. -/
theorem translateFrom_eq_cutFrom (keys : List Slot) (location : Location) (line covered : Nat)
    (s : List Char) :
    translateFrom (keys.map (Slot.rule location)) line covered s =
      (cutFrom keys covered s).flatMap (Fragment.render location line) := by
  induction s generalizing covered with
  | nil => cases covered <;> rfl
  | cons c rest ih =>
    cases covered with
    | succ covered => exact ih covered
    | zero =>
      have hmatching : matching? (keys.map (Slot.rule location)) (c :: rest) =
          (keys.find? fun k => k.key.isPrefixOf (c :: rest)).map (Slot.rule location) := by
        rw [matching?, List.find?_map]
        rfl
      rw [translateFrom, cutFrom, hmatching]
      cases keys.find? fun k => k.key.isPrefixOf (c :: rest) with
      | none =>
        simp only [Option.map_none, List.flatMap_cons, ih]
        rfl
      | some k =>
        simp only [Option.map_some, List.flatMap_cons, Slot.rule, ih]
        rfl

/-- Translated lines are the fragments of the text, each rendered for its line. -/
theorem intercalate_translate (keys : List Slot) (location : Location)
    (lines : List (List Char × Nat)) :
    List.intercalate ['\n'] (lines.map fun (line, number) =>
        translate (keys.map (Slot.rule location)) number line) =
      (weave keys lines).flatMap fun (number, f) => f.render location number := by
  induction lines with
  | nil => rfl
  | cons first rest ih =>
    obtain ⟨line, number⟩ := first
    have hline : translate (keys.map (Slot.rule location)) number line =
        ((cutFrom keys 0 line).map fun f => (number, f)).flatMap
          fun (number, f) => f.render location number := by
      rw [translate, translateFrom_eq_cutFrom, List.flatMap_map]
    cases rest with
    | nil =>
      simp only [List.map_cons, List.map_nil, List.intercalate_singleton, weave]
      exact hline
    | cons next rest =>
      rw [List.map_cons] at ih
      rw [List.map_cons, List.map_cons, List.intercalate_cons_cons, ih, weave, List.flatMap_append,
        ← hline]
      simp [Fragment.render]

/-- A text at a location is made up of its fragments. -/
theorem substitute_toList (text : String) (replace : SortedMap String) (location : Location) :
    (substitute text replace (some location)).toList =
      (fragments text replace).flatMap fun (number, f) => f.render location number := by
  unfold substitute
  simp only [String.toList_ofList]
  rw [rules_eq]
  exact intercalate_translate _ _ _

/-! ### Locations -/

/-- A text has a place for a constant. -/
def Uses (text : String) (replace : SortedMap String) (s : Site) : Prop :=
  ∃ number, (number, Fragment.site s) ∈ fragments text replace

/-- Texts of the same parts are equal exactly if all parts are, provided that the parts show where
    they end. -/
theorem flatMap_eq_iff {α : Type} {f g : α → List Char} {l : List α}
    (hcancel : ∀ x r s, f x ++ r = g x ++ s → f x = g x ∧ r = s) :
    l.flatMap f = l.flatMap g ↔ ∀ x ∈ l, f x = g x := by
  constructor
  · intro h
    induction l with
    | nil => nofun
    | cons a l ih =>
      rw [List.flatMap_cons, List.flatMap_cons] at h
      obtain ⟨ha, hl⟩ := hcancel a _ _ h
      intro x hx
      rcases List.mem_cons.1 hx with rfl | hx
      · exact ha
      · exact ih hl x hx
  · intro h
    induction l with
    | nil => rfl
    | cons a l ih =>
      rw [List.flatMap_cons, List.flatMap_cons, h a List.mem_cons_self,
        ih fun x hx => h x (List.mem_cons_of_mem _ hx)]

/-- Two texts of which neither goes on where the other one ends. -/
def EndAlike (x y : String) : Prop :=
  ∀ r s : List Char, x.toList ++ r = y.toList ++ s → x = y ∧ r = s

theorem EndAlike.eq {x y : String} (h : EndAlike x y) (hxy : x.toList = y.toList) : x = y :=
  (h [] [] (by rw [hxy])).1

section

variable {a b : Location}

/-- The parts of a text at two locations are the same where they begin a common text. -/
theorem render_cancel (hroutine : a.routine = b.routine) (hfile : EndAlike a.file b.file)
    (hdir : EndAlike a.dir b.dir) (line : Nat) (f : Fragment) (r s : List Char)
    (h : f.render a line ++ r = f.render b line ++ s) :
    f.render a line = f.render b line ∧ r = s := by
  cases f with
  | plain c => exact ⟨rfl, List.append_cancel_left h⟩
  | site place =>
    cases place with
    | value text => exact ⟨rfl, List.append_cancel_left h⟩
    | file =>
      obtain ⟨hsame, hrest⟩ := hfile r s h
      exact ⟨congrArg String.toList hsame, hrest⟩
    | routine =>
      have hsame : a.routine.toList = b.routine.toList := congrArg String.toList hroutine
      refine ⟨hsame, ?_⟩
      change a.routine.toList ++ r = b.routine.toList ++ s at h
      rw [hsame] at h
      exact List.append_cancel_left h
    | dir =>
      obtain ⟨hsame, hrest⟩ := hdir r s h
      exact ⟨congrArg String.toList hsame, hrest⟩
    | line => exact ⟨rfl, List.append_cancel_left h⟩

/-- Two locations of one routine make the same text exactly if they agree on the constants that are
    used. -/
theorem substitute_congr_iff (text : String) (replace : SortedMap String)
    (hroutine : a.routine = b.routine) (hfile : EndAlike a.file b.file)
    (hdir : EndAlike a.dir b.dir) :
    substitute text replace (some a) = substitute text replace (some b) ↔
      (Uses text replace .file → a.file = b.file) ∧ (Uses text replace .dir → a.dir = b.dir) := by
  -- a fragment that is filled in twice and followed by the same text is filled in alike
  have hcancel : ∀ (x : Nat × Fragment) (r s : List Char),
      x.2.render a x.1 ++ r = x.2.render b x.1 ++ s →
        x.2.render a x.1 = x.2.render b x.1 ∧ r = s :=
    fun x r s => render_cancel hroutine hfile hdir x.1 x.2 r s
  rw [← String.toList_inj, substitute_toList, substitute_toList, flatMap_eq_iff hcancel]
  constructor
  · intro h
    refine ⟨fun ⟨number, hmem⟩ => ?_, fun ⟨number, hmem⟩ => ?_⟩
    · exact hfile.eq (h _ hmem)
    · exact hdir.eq (h _ hmem)
  · rintro ⟨huses, huses'⟩ ⟨number, f⟩ hmem
    cases f with
    | plain c => rfl
    | site place =>
      cases place with
      | value text => rfl
      | file => exact congrArg String.toList (huses ⟨number, hmem⟩)
      | routine => exact congrArg String.toList hroutine
      | dir => exact congrArg String.toList (huses' ⟨number, hmem⟩)
      | line => rfl

end

theorem endAlike_literal (x y : String) : EndAlike (Sql.literal x) (Sql.literal y) := by
  intro r s h
  obtain ⟨rfl, hrest⟩ := Sql.literal_append_inj h
  exact ⟨rfl, hrest⟩

theorem literal_inj {x y : String} : Sql.literal x = Sql.literal y ↔ x = y := by
  constructor
  · intro h
    exact (Sql.literal_append_inj (r := []) (s := []) (by rw [h])).1
  · rintro rfl
    rfl

/-- The location of a path, given the literal of the routine's name. -/
def locationOf (file dir : String) (routine : String) : Location :=
  ⟨Sql.literal file, routine, Sql.literal dir⟩

/-- Two paths make the same text exactly if they agree as far as the text asks for them. -/
theorem substitute_eq_iff (text : String) (replace : SortedMap String) (routine : String)
    (file dir file' dir' : String) :
    substitute text replace (some (locationOf file dir routine)) =
        substitute text replace (some (locationOf file' dir' routine)) ↔
      (Uses text replace .file → file = file') ∧ (Uses text replace .dir → dir = dir') := by
  rw [substitute_congr_iff text replace (a := locationOf file dir routine)
    (b := locationOf file' dir' routine) rfl (endAlike_literal _ _) (endAlike_literal _ _)]
  unfold locationOf
  rw [literal_inj, literal_inj]

end StoredRoutines.Placeholder
