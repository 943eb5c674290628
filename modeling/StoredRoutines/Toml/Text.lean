import StoredRoutines.Text.Hex

/-!
# Strings and keys of TOML

The four forms of strings, and the keys of tables.

## Main definitions

- `string?` — the string that a text begins with
- `simpleKey?` — the part of a key that a text begins with
- `key?` — the whole key, its parts separated by full stops
- `skipBlanks`, `skipLines?`, `endOfLine?` — what may stand between values

## Design notes

As elsewhere, a reader that moves ahead by several characters carries the number of characters
that are covered, and recurses on the text one character at a time.
-/

namespace StoredRoutines.Toml

/-- The characters of strings and comments: all but the control characters, and the tab. -/
def isTextChar (c : Char) : Bool :=
  c == '\t' || (0x20 ≤ c.toNat && c.toNat != 0x7F)

/-- The white space within a line. -/
def isBlank (c : Char) : Bool :=
  c == ' ' || c == '\t'

/-- A text without the white space at its start. -/
def skipBlanks (s : List Char) : List Char :=
  s.dropWhile isBlank

/-- A text without the white space, line breaks and comments at its start. A comment with a
    control character is refused. -/
def skipLinesFrom? : (inComment : Bool) → List Char → Option (List Char)
  | _, [] => some []
  | _, '\n' :: rest => skipLinesFrom? false rest
  | _, '\r' :: '\n' :: rest => skipLinesFrom? false rest
  | true, c :: rest => if isTextChar c then skipLinesFrom? true rest else none
  | false, c :: rest =>
    if c == '#' then skipLinesFrom? true rest
    else if isBlank c then skipLinesFrom? false rest
    else some (c :: rest)

/-- A text without the white space, line breaks and comments at its start. -/
def skipLines? (s : List Char) : Option (List Char) :=
  skipLinesFrom? false s

/-- What follows the line break that a text begins with; the end of the text is as good. -/
def lineBreak? : List Char → Option (List Char)
  | [] => some []
  | '\n' :: rest => some rest
  | '\r' :: '\n' :: rest => some rest
  | _ => none

/-- What follows the rest of a line on which nothing but a comment stands. -/
def endOfLine? (s : List Char) : Option (List Char) :=
  match skipBlanks s with
  | '#' :: rest => lineBreak? (rest.dropWhile isTextChar)
  | s => lineBreak? s

/-! ### Strings -/

/-- The character with a number, if there is one. -/
def charOf? (n : Nat) : Option Char :=
  if n.isValidChar then some (Char.ofNat n) else none

/-- The character that the text after a backslash stands for, and the number of characters that
    name it. -/
def escape? : List Char → Option (Char × Nat)
  | 'b' :: _ => some ('\x08', 1)
  | 't' :: _ => some ('\t', 1)
  | 'n' :: _ => some ('\n', 1)
  | 'f' :: _ => some ('\x0c', 1)
  | 'r' :: _ => some ('\r', 1)
  | '"' :: _ => some ('"', 1)
  | '\\' :: _ => some ('\\', 1)
  | 'u' :: rest =>
    if rest.length < 4 then none
    else ((Text.hexValue? (rest.take 4)).bind charOf?).map fun c => (c, 5)
  | 'U' :: rest =>
    if rest.length < 8 then none
    else ((Text.hexValue? (rest.take 8)).bind charOf?).map fun c => (c, 9)
  | _ => none

/-- The text of a basic string up to its closing quote, and what follows the quote. -/
def basicFrom? : Nat → List Char → Option (List Char × List Char)
  | _, [] => none
  | covered + 1, _ :: rest => basicFrom? covered rest
  | 0, '"' :: rest => some ([], rest)
  | 0, '\\' :: rest =>
    match escape? rest with
    | some (c, n) => (basicFrom? n rest).map fun (t, rest) => (c :: t, rest)
    | none => none
  | 0, c :: rest =>
    if isTextChar c then (basicFrom? 0 rest).map fun (t, rest) => (c :: t, rest) else none

/-- The number of characters of the white space and line breaks that a text begins with. -/
def whiteLength : List Char → Nat
  | '\r' :: '\n' :: rest => whiteLength rest + 2
  | c :: rest => if isBlank c || c == '\n' then whiteLength rest + 1 else 0
  | [] => 0

/-- The number of characters that a backslash at the end of a line covers, if it is at one. -/
def lineEndLength? (s : List Char) : Option Nat :=
  match skipBlanks s with
  | '\n' :: _ => some (whiteLength s)
  | '\r' :: '\n' :: _ => some (whiteLength s)
  | _ => none

/-- The text of a basic string of several lines up to its closing quotes, and what follows. Up to
    two quotes in front of the closing ones belong to the text. -/
def multiBasicFrom? : Nat → List Char → Option (List Char × List Char)
  | _, [] => none
  | covered + 1, _ :: rest => multiBasicFrom? covered rest
  | 0, '"' :: '"' :: '"' :: '"' :: '"' :: rest => some (['"', '"'], rest)
  | 0, '"' :: '"' :: '"' :: '"' :: rest => some (['"'], rest)
  | 0, '"' :: '"' :: '"' :: rest => some ([], rest)
  | 0, '\\' :: rest =>
    match lineEndLength? rest with
    | some n => multiBasicFrom? n rest
    | none =>
      match escape? rest with
      | some (c, n) => (multiBasicFrom? n rest).map fun (t, rest) => (c :: t, rest)
      | none => none
  | 0, '\r' :: '\n' :: rest => (multiBasicFrom? 0 rest).map fun (t, rest) => ('\n' :: t, rest)
  | 0, c :: rest =>
    if isTextChar c || c == '\n' then
      (multiBasicFrom? 0 rest).map fun (t, rest) => (c :: t, rest)
    else none

/-- The single quote. -/
def quote : Char := '\x27'

/-- The text of a literal string up to its closing quote, and what follows the quote. -/
def literalFrom? : List Char → Option (List Char × List Char)
  | [] => none
  | c :: rest =>
    if c = quote then some ([], rest)
    else if isTextChar c then (literalFrom? rest).map fun (t, rest) => (c :: t, rest)
    else none

/-- The number of single quotes that a text begins with. -/
def quoteCount : List Char → Nat
  | [] => 0
  | c :: rest => if c = quote then quoteCount rest + 1 else 0

/-- The text of a literal string of several lines up to its closing quotes, and what follows. -/
def multiLiteralFrom? : List Char → Option (List Char × List Char)
  | [] => none
  | '\r' :: '\n' :: rest => (multiLiteralFrom? rest).map fun (t, rest) => ('\n' :: t, rest)
  | c :: rest =>
    let quotes := quoteCount (c :: rest)
    if 3 ≤ quotes then
      let inside := min (quotes - 3) 2
      some (List.replicate inside quote, rest.drop (inside + 2))
    else if isTextChar c || c == '\n' then
      (multiLiteralFrom? rest).map fun (t, rest) => (c :: t, rest)
    else none

/-- A text without the line break it begins with. -/
def dropLineBreak : List Char → List Char
  | '\n' :: rest => rest
  | '\r' :: '\n' :: rest => rest
  | s => s

/-- The text of the string on a single line that a text begins with, and what follows. -/
def lineString? : List Char → Option (List Char × List Char)
  | [] => none
  | c :: rest =>
    if c = '"' then basicFrom? 0 rest
    else if c = quote then literalFrom? rest
    else none

/-- The text of the string that a text begins with, and what follows. -/
def string? : List Char → Option (List Char × List Char)
  | '"' :: '"' :: '"' :: rest => multiBasicFrom? 0 (dropLineBreak rest)
  | s =>
    if 3 ≤ quoteCount s then multiLiteralFrom? (dropLineBreak (s.drop 3)) else lineString? s

/-! ### Keys -/

/-- The characters of a key without quotes. -/
def isKeyChar (c : Char) : Bool :=
  c.isAlphanum || c == '_' || c == '-'

/-- The part of a key that a text begins with, and what follows. -/
def simpleKey? : List Char → Option (String × List Char)
  | [] => none
  | c :: rest =>
    if c = '"' || c = quote then
      (lineString? (c :: rest)).map fun (t, rest) => (String.ofList t, rest)
    else
      let word := (c :: rest).takeWhile isKeyChar
      if word.isEmpty then none
      else some (String.ofList word, (c :: rest).dropWhile isKeyChar)

/-- The parts of a key, and what follows, read in at most the given number of steps. -/
def keyFrom? : Nat → List Char → Option (List String × List Char)
  | 0, _ => none
  | steps + 1, s =>
    match simpleKey? (skipBlanks s) with
    | none => none
    | some (k, rest) =>
      match skipBlanks rest with
      | '.' :: rest => (keyFrom? steps rest).map fun (ks, rest) => (k :: ks, rest)
      | rest => some ([k], rest)

/-- The depth to which brackets and braces may be nested, and the number of parts that a key may
    have. -/
def maxDepth : Nat := 79

/-- The parts of the key that a text begins with, and what follows it and the white space
    behind it. -/
def key? (s : List Char) : Option (List String × List Char) :=
  keyFrom? maxDepth s

end StoredRoutines.Toml
