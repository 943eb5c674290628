import StoredRoutines.Placeholder.Resolution
import StoredRoutines.Sorting
import StoredRoutines.Text.ByteLength

/-!
# Substitution

Tokens and location constants are replaced line by line. At every position the longest matching
key is replaced, and inserted text is not looked at again.

## Main definitions

- `Location` — the constants that name the place a source was read from
- `Rule` — a key with the text, or the number of the line, that replaces it
- `rules` — the rules of a replacement map, the longest keys first
- `translate` — one line under a list of rules
- `substitute` — all lines of a text
- `resolve` — a text with its known tokens replaced

## Design notes

The number of a line is only known once the line is reached, so a rule says *what* is inserted
(`Insertion`) and `translate` turns it into text. Keys without characters are left out when the
rules are built; every match therefore covers at least one character.
-/

namespace StoredRoutines.Placeholder

/-- The values of the location constants of a source, already written as SQL literals. -/
structure Location where
  /-- The value of `__FILE__`. -/
  file : String
  /-- The value of `__ROUTINE__`. -/
  routine : String
  /-- The value of `__DIR__`. -/
  dir : String
  deriving DecidableEq, Repr

/-- The constant for the path of the source. -/
def fileKey : String := "__FILE__"

/-- The constant for the name of the routine. -/
def routineKey : String := "__ROUTINE__"

/-- The constant for the directory of the source. -/
def dirKey : String := "__DIR__"

/-- The constant for the number of the line it stands on. -/
def lineKey : String := "__LINE__"

/-- What replaces a key. -/
inductive Insertion where
  /-- A fixed text. -/
  | text (value : List Char)
  /-- The number of the line the key stands on. -/
  | lineNumber
  deriving DecidableEq, Repr

/-- The text of an insertion on a given line. -/
def Insertion.on (line : Nat) : Insertion → List Char
  | .text value => value
  | .lineNumber => (toString line).toList

/-- A key and what replaces it. -/
structure Rule where
  /-- The text that is replaced. -/
  key : List Char
  /-- What replaces it. -/
  insertion : Insertion
  deriving DecidableEq, Repr

namespace Rule

/-- The length of the key in its UTF-8 encoding. -/
def weight (r : Rule) : Nat :=
  Text.byteLength r.key

/-- The order in which rules are tried: longer keys come first, and keys of one length in
    ascending order. -/
def precedes (a b : Rule) : Bool :=
  b.weight < a.weight || (a.weight == b.weight && String.ofList a.key ≤ String.ofList b.key)

end Rule

/-- The rules of the entries of a replacement map. With location constants the key `__LINE__`
    stands for the line number whatever the map says. -/
def entryRules (replace : SortedMap String) (located : Bool) : List Rule :=
  replace.entries.filterMap fun (key, value) =>
    if key.isEmpty then none
    else if located && key == lineKey then some ⟨key.toList, .lineNumber⟩
    else some ⟨key.toList, .text value.toList⟩

/-- The rules of the location constants. -/
def Location.rules (location : Location) : List Rule :=
  [⟨fileKey.toList, .text location.file.toList⟩,
    ⟨routineKey.toList, .text location.routine.toList⟩,
    ⟨dirKey.toList, .text location.dir.toList⟩,
    ⟨lineKey.toList, .lineNumber⟩]

/-- All rules in the order in which they are tried. -/
def rules (replace : SortedMap String) (location : Option Location) : List Rule :=
  sortBy Rule.precedes
    (entryRules replace location.isSome ++ (location.map Location.rules).getD [])

/-- The first rule whose key a text begins with. -/
def matching? (rs : List Rule) (s : List Char) : Option Rule :=
  rs.find? fun r => r.key.isPrefixOf s

/-- One line under a list of rules, of which the first `covered` characters belong to a key that
    has been replaced already. -/
def translateFrom (rs : List Rule) (line : Nat) : Nat → List Char → List Char
  | _, [] => []
  | covered + 1, _ :: rest => translateFrom rs line covered rest
  | 0, c :: rest =>
    match matching? rs (c :: rest) with
    | some r => r.insertion.on line ++ translateFrom rs line (r.key.length - 1) rest
    | none => c :: translateFrom rs line 0 rest

/-- One line under a list of rules. -/
def translate (rs : List Rule) (line : Nat) (s : List Char) : List Char :=
  translateFrom rs line 0 s

/-- A text with the keys of `replace`, and the location constants if given, replaced on every
    line. -/
def substitute (text : String) (replace : SortedMap String) (location : Option Location) :
    String :=
  let rs := rules replace location
  String.ofList (List.intercalate ['\n']
    (((Text.splitOn '\n' text.toList).zipIdx 1).map fun (line, number) =>
      translate rs number line))

/-- A text with its known tokens replaced, and its unknown tokens in ascending order. -/
def resolve (text : String) (table : Table) : String × List String :=
  let resolution := collect text table
  (substitute text resolution.replace none, resolution.unknown)

/-- Characters that are covered are passed over. -/
theorem translateFrom_eq (rs : List Rule) (line covered : Nat) (s : List Char) :
    translateFrom rs line covered s = translate rs line (s.drop covered) := by
  induction covered generalizing s with
  | zero => rfl
  | succ n ih =>
    cases s with
    | nil => simp [translate, translateFrom]
    | cons c rest => simpa [translateFrom] using ih rest

theorem translate_nil (rs : List Rule) (line : Nat) : translate rs line [] = [] := rfl

theorem translate_of_none {rs : List Rule} {line : Nat} {c : Char} {rest : List Char}
    (h : matching? rs (c :: rest) = none) :
    translate rs line (c :: rest) = c :: translate rs line rest := by
  simp [translate, translateFrom, h]

/-- Where a key begins, what it stands for is put in, and the rest is translated. -/
theorem translate_of_some {rs : List Rule} {line : Nat} {s : List Char} {r : Rule}
    (h : matching? rs s = some r) (hkey : r.key ≠ []) :
    translate rs line s = r.insertion.on line ++ translate rs line (s.drop r.key.length) := by
  cases s with
  | nil =>
    have hp := List.find?_some h
    exact absurd (by simpa using hp) hkey
  | cons c rest =>
    cases hk : r.key with
    | nil => exact absurd hk hkey
    | cons d t =>
      rw [translate, translateFrom, h]
      simp [hk, translateFrom_eq]

end StoredRoutines.Placeholder
