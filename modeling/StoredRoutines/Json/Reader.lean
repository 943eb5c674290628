import StoredRoutines.Json.Basic
import StoredRoutines.Text.Hex

/-!
# Reading JSON

The strict grammar: white space is blank, tab, line feed and carriage return, nothing follows the
value, and no comma ends a list.

## Main definitions

- `Unit` — a character of a string, or a surrogate
- `units?` — the units of a string up to its closing quote
- `textOf` — the text that units make up
- `number?` — the number that a text begins with
- `value` — the value that a text begins with
- `read?` — the value that a text is

## Design notes

Surrogates are put together only after the whole string has been read, so that a string without
a text is still read to its end. The values are read with a bound on the depth and the number of
steps; the length of the text is enough, since each step reads at least one character.
-/

namespace StoredRoutines.Json

/-- A unit of a string: a character, or one half of an escaped pair. -/
inductive Unit where
  /-- A character. -/
  | char (c : Char)
  /-- A surrogate by its number. -/
  | surrogate (code : Nat)
  deriving DecidableEq, Repr

/-- White space between the parts of a value. -/
def isSpace (c : Char) : Bool :=
  c == ' ' || c == '\t' || c == '\n' || c == '\r'

/-- A text without the white space at its start. -/
def skipSpace (s : List Char) : List Char :=
  s.dropWhile isSpace

/-- The unit with a number below 65536. -/
def unitOf (code : Nat) : Unit :=
  if 0xD800 ≤ code ∧ code ≤ 0xDFFF then .surrogate code else .char (Char.ofNat code)

/-- The unit that four hexadecimal digits stand for. -/
def hexUnit? (a b c d : Char) : Option Unit :=
  (Text.hexValue? [a, b, c, d]).map unitOf

/-- The character that a single letter after a backslash stands for. -/
def escaped? : Char → Option Char
  | '"' => some '"'
  | '\\' => some '\\'
  | '/' => some '/'
  | 'b' => some '\x08'
  | 'f' => some '\x0c'
  | 'n' => some '\n'
  | 'r' => some '\r'
  | 't' => some '\t'
  | _ => none

/-- The units of a string up to its closing quote, and what follows the quote. -/
def units? : List Char → Option (List Unit × List Char)
  | [] => none
  | '"' :: rest => some ([], rest)
  | '\\' :: 'u' :: a :: b :: c :: d :: rest =>
    match hexUnit? a b c d, units? rest with
    | some u, some (us, rest) => some (u :: us, rest)
    | _, _ => none
  | '\\' :: e :: rest =>
    match escaped? e, units? rest with
    | some c, some (us, rest) => some (.char c :: us, rest)
    | _, _ => none
  | c :: rest =>
    if c == '\\' || c.toNat < 0x20 then none
    else
      match units? rest with
      | some (us, rest) => some (.char c :: us, rest)
      | none => none

/-- The character of a pair of surrogates. -/
def pairChar (high low : Nat) : Char :=
  Char.ofNat (0x10000 + (high - 0xD800) * 0x400 + (low - 0xDC00))

/-- The text that units make up; a surrogate without a partner makes up none. -/
def textOf : List Unit → Option (List Char)
  | [] => some []
  | .char c :: rest => (textOf rest).map (c :: ·)
  | .surrogate high :: .surrogate low :: rest =>
    if high < 0xDC00 ∧ 0xDC00 ≤ low then (textOf rest).map (pairChar high low :: ·) else none
  | .surrogate _ :: _ => none

/-- The string whose opening quote has been read, and what follows it. -/
def string? (s : List Char) : Option (Option String × List Char) :=
  (units? s).map fun (us, rest) => ((textOf us).map String.ofList, rest)

/-- At least one decimal digit, and what follows. -/
def digits? (s : List Char) : Option (List Char × List Char) :=
  let digits := s.takeWhile Char.isDigit
  if digits.isEmpty then none else some (digits, s.dropWhile Char.isDigit)

/-- The hyphen of a number, if there is one, and what follows. -/
def sign : List Char → List Char × List Char
  | '-' :: rest => (['-'], rest)
  | s => ([], s)

/-- The digits before the point: a single zero, or digits of which the first is no zero. -/
def whole? : List Char → Option (List Char × List Char)
  | '0' :: rest => some (['0'], rest)
  | s => digits? s

/-- The point and the digits after it, if there is a point. -/
def fraction? : List Char → Option (List Char × List Char)
  | '.' :: rest => (digits? rest).map fun (digits, rest) => ('.' :: digits, rest)
  | s => some ([], s)

/-- The sign of an exponent, if there is one. -/
def exponentSign : List Char → List Char × List Char
  | '+' :: rest => (['+'], rest)
  | '-' :: rest => (['-'], rest)
  | s => ([], s)

/-- The exponent, if there is one. -/
def exponent? : List Char → Option (List Char × List Char)
  | [] => some ([], [])
  | c :: rest =>
    if c == 'e' || c == 'E' then
      (digits? (exponentSign rest).2).map fun (digits, r) =>
        (c :: ((exponentSign rest).1 ++ digits), r)
    else some ([], c :: rest)

/-- The number that a text begins with, and what follows. -/
def number? (s : List Char) : Option (List Char × List Char) := do
  let (whole, rest) ← whole? (sign s).2
  let (fraction, rest) ← fraction? rest
  let (exponent, rest) ← exponent? rest
  some ((sign s).1 ++ whole ++ fraction ++ exponent, rest)

mutual

/-- The value that a text begins with, and what follows. -/
def value : Nat → List Char → Option (Json × List Char)
  | 0, _ => none
  | steps + 1, s =>
    match skipSpace s with
    | '"' :: rest => (string? rest).map fun (t, rest) => (.string t, rest)
    | '[' :: rest =>
      match skipSpace rest with
      | ']' :: rest => some (.array [], rest)
      | rest => (items steps rest).map fun (vs, rest) => (.array vs, rest)
    | '\x7b' :: rest =>
      match skipSpace rest with
      | '\x7d' :: rest => some (.object [], rest)
      | rest => (members steps rest).map fun (ms, rest) => (.object ms, rest)
    | 'n' :: 'u' :: 'l' :: 'l' :: rest => some (.null, rest)
    | 't' :: 'r' :: 'u' :: 'e' :: rest => some (.bool true, rest)
    | 'f' :: 'a' :: 'l' :: 's' :: 'e' :: rest => some (.bool false, rest)
    | s => (number? s).map fun (n, rest) => (.number n, rest)

/-- The values of a list up to its closing bracket, and what follows the bracket. -/
def items : Nat → List Char → Option (List Json × List Char)
  | 0, _ => none
  | steps + 1, s =>
    match value steps s with
    | none => none
    | some (v, rest) =>
      match skipSpace rest with
      | ',' :: rest => (items steps rest).map fun (vs, rest) => (v :: vs, rest)
      | ']' :: rest => some ([v], rest)
      | _ => none

/-- The members of an object up to its closing brace, and what follows the brace. -/
def members : Nat → List Char → Option (List (Option String × Json) × List Char)
  | 0, _ => none
  | steps + 1, s =>
    match skipSpace s with
    | '"' :: rest =>
      match string? rest with
      | none => none
      | some (key, rest) =>
        match skipSpace rest with
        | ':' :: rest =>
          match value steps rest with
          | none => none
          | some (v, rest) =>
            match skipSpace rest with
            | ',' :: rest => (members steps rest).map fun (ms, rest) => ((key, v) :: ms, rest)
            | '\x7d' :: rest => some ([(key, v)], rest)
            | _ => none
        | _ => none
    | _ => none

end

/-- The value that a whole text is. -/
def read? (text : String) : Option Json :=
  let s := text.toList
  match value (s.length + 1) s with
  | some (v, rest) => if (skipSpace rest).isEmpty then some v else none
  | none => none

end StoredRoutines.Json
