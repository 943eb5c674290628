import StoredRoutines.Json.Basic

/-!
# Writing JSON

Values are written with one item or member a line, indented by two blanks a level.

## Main definitions

- `writeChar`, `writeString` — a text between quotes
- `render` — a value at a level of indentation
- `print` — a value as a whole text
-/

namespace StoredRoutines.Json

/-- The lower-case hexadecimal digit of a number below sixteen. -/
def hexDigit (n : Nat) : Char :=
  if n < 10 then Char.ofNat ('0'.toNat + n) else Char.ofNat ('a'.toNat + (n - 10))

/-- A character inside a string. Control characters have short escapes or their number. -/
def writeChar (c : Char) : List Char :=
  if c = '"' then ['\\', '"']
  else if c = '\\' then ['\\', '\\']
  else if c = '\x08' then ['\\', 'b']
  else if c = '\x0c' then ['\\', 'f']
  else if c = '\n' then ['\\', 'n']
  else if c = '\r' then ['\\', 'r']
  else if c = '\t' then ['\\', 't']
  else if c.toNat < 0x20 then
    ['\\', 'u', '0', '0', hexDigit (c.toNat / 16), hexDigit (c.toNat % 16)]
  else [c]

/-- A string without a text: an escaped surrogate alone. -/
def writeBroken : List Char := ['"', '\\', 'u', 'd', '8', '0', '0', '"']

/-- A string between quotes. -/
def writeString : Option String → List Char
  | some s => '"' :: (s.toList.flatMap writeChar ++ ['"'])
  | none => writeBroken

/-- The start of a line at a level of indentation. -/
def newLine (level : Nat) : List Char :=
  '\n' :: List.replicate (2 * level) ' '

mutual

/-- A value at a level of indentation. -/
def render (level : Nat) : Json → List Char
  | null => ['n', 'u', 'l', 'l']
  | bool true => ['t', 'r', 'u', 'e']
  | bool false => ['f', 'a', 'l', 's', 'e']
  | number written => written
  | string text => writeString text
  | array [] => ['[', ']']
  | array (v :: vs) =>
    '[' :: (newLine (level + 1) ++ render (level + 1) v ++ renderItems (level + 1) vs ++
      newLine level ++ [']'])
  | object [] => ['\x7b', '\x7d']
  | object (m :: ms) =>
    '\x7b' :: (newLine (level + 1) ++ writeString m.1 ++ [':', ' '] ++ render (level + 1) m.2 ++
      renderMembers (level + 1) ms ++ newLine level ++ ['\x7d'])

/-- The items after the first, each after a comma and on its own line. -/
def renderItems (level : Nat) : List Json → List Char
  | [] => []
  | v :: vs => ',' :: (newLine level ++ render level v ++ renderItems level vs)

/-- The members after the first, each after a comma and on its own line. -/
def renderMembers (level : Nat) : List (Option String × Json) → List Char
  | [] => []
  | m :: ms =>
    ',' :: (newLine level ++ writeString m.1 ++ [':', ' '] ++ render level m.2 ++
      renderMembers level ms)

end

/-- A value as a text that ends with a line feed. -/
def print (v : Json) : String :=
  String.ofList (render 0 v ++ ['\n'])

end StoredRoutines.Json
