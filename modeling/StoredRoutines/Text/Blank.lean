import StoredRoutines.Text.CodeRange

/-!
# White space

The characters with the White_Space property, and the texts without white space at an end.

## Main definitions

- `isBlank` — the class of white space characters
- `trimStart`, `trimEnd`, `trim` — a text without the white space at its start, its end or both
- `afterBlanks?` — what follows the white space that a text has to begin with
-/

namespace StoredRoutines.Text

/-- The white space code points. -/
def blanks : List (Nat × Nat) :=
  [(0x0009, 0x000D), (0x0020, 0x0020), (0x0085, 0x0085), (0x00A0, 0x00A0), (0x1680, 0x1680),
    (0x2000, 0x200A), (0x2028, 0x2029), (0x202F, 0x202F), (0x205F, 0x205F), (0x3000, 0x3000)]

/-- White space characters, line breaks among them. -/
def isBlank (c : Char) : Bool :=
  inRanges c.toNat blanks

/-- A text without the white space at its start. -/
def trimStart (s : List Char) : List Char :=
  s.dropWhile isBlank

/-- What follows the white space, at least one character, that a text begins with. -/
def afterBlanks? : List Char → Option (List Char)
  | [] => none
  | c :: rest => if isBlank c then some (trimStart rest) else none

/-- A text without the white space at its end. -/
def trimEnd (s : List Char) : List Char :=
  (s.reverse.dropWhile isBlank).reverse

/-- A text without the white space at either end. -/
def trim (s : List Char) : List Char :=
  trimEnd (trimStart s)

@[simp]
theorem trimStart_nil : trimStart [] = [] := rfl

@[simp]
theorem trim_nil : trim [] = [] := rfl

theorem trimStart_cons (c : Char) (s : List Char) :
    trimStart (c :: s) = if isBlank c then trimStart s else c :: s := by
  simp only [trimStart, List.dropWhile_cons]

/-- What trimming the end keeps is the start of the text. -/
theorem trimEnd_isPrefix (s : List Char) : trimEnd s <+: s := by
  have h := List.dropWhile_suffix (p := isBlank) (l := s.reverse)
  simpa [trimEnd] using List.reverse_prefix.2 h

end StoredRoutines.Text
