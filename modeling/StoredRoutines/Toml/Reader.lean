import StoredRoutines.Toml.Scalar
import StoredRoutines.Toml.Text
import StoredRoutines.Toml.Value

/-!
# Reading TOML

Documents of version 1.0 of the format.

## Main definitions

- `value?` — the value that a text begins with
- `statementsFrom?` — the lines of a document
- `read?` — the table that a document describes
-/

namespace StoredRoutines.Toml

/-- The value that a word stands for. -/
def scalar? (word : List Char) : Option Toml :=
  if word = "true".toList then some (.boolean true)
  else if word = "false".toList then some (.boolean false)
  else
    match integer? word with
    | some n => some (.integer n)
    | none =>
      if isDateTime word then some (.moment (String.ofList word))
      else if isFloat word then some (.float (String.ofList word))
      else none

/-- The word that a text begins with, and what follows. A date and a time may be separated by a
    blank. -/
def word (s : List Char) : List Char × List Char :=
  let first := s.takeWhile isWordChar
  let rest := s.dropWhile isWordChar
  match rest with
  | ' ' :: c :: more =>
    if isDate first && c.isDigit then
      (first ++ ' ' :: (c :: more).takeWhile isWordChar, (c :: more).dropWhile isWordChar)
    else (first, rest)
  | _ => (first, rest)

/-- A value bound to a key that may be dotted. -/
def bind? (key : List String) (v : Toml) (es : Entries) : Option Entries :=
  match key.getLast? with
  | some last => withinDotted? (defineValue? last v) key.dropLast es
  | none => none

mutual

/-- The value that a text begins with, and what follows. Brackets and braces may be nested to
    the given depth. -/
def value? : Nat → (depth : Nat) → List Char → Option (Toml × List Char)
  | 0, _, _ => none
  | steps + 1, depth, s =>
    match s with
    | [] => none
    | c :: rest =>
      if c = '[' then
        match depth with
        | 0 => none
        | depth + 1 => (items? steps depth rest).map fun (vs, rest) => (.array vs, rest)
      else if c = '\x7b' then
        match depth with
        | 0 => none
        | depth + 1 =>
          match skipBlanks rest with
          | '\x7d' :: rest => some (.table [], rest)
          | rest =>
            (members? steps depth [] rest).map fun (es, rest) => (.table (finishEntries es), rest)
      else if c = '"' || c = quote then
        (string? (c :: rest)).map fun (t, rest) => (.string (String.ofList t), rest)
      else
        let (w, rest) := word (c :: rest)
        (scalar? w).map fun v => (v, rest)

/-- The values of a list up to its closing bracket, and what follows the bracket. A comma may
    stand behind the last one. -/
def items? : Nat → (depth : Nat) → List Char → Option (List Toml × List Char)
  | 0, _, _ => none
  | steps + 1, depth, s =>
    match skipLines? s with
    | none => none
    | some (']' :: rest) => some ([], rest)
    | some s =>
      match value? steps depth s with
      | none => none
      | some (v, rest) =>
        match skipLines? rest with
        | some (',' :: rest) => (items? steps depth rest).map fun (vs, rest) => (v :: vs, rest)
        | some (']' :: rest) => some ([v], rest)
        | _ => none

/-- The members of a table in braces up to its closing brace, and what follows the brace. -/
def members? : Nat → (depth : Nat) → Entries → List Char → Option (Entries × List Char)
  | 0, _, _, _ => none
  | steps + 1, depth, es, s =>
    match key? s with
    | some (key, '=' :: rest) =>
      match value? steps depth (skipBlanks rest) with
      | none => none
      | some (v, rest) =>
        match bind? key v es with
        | none => none
        | some es =>
          match skipBlanks rest with
          | ',' :: rest => members? steps depth es rest
          | '\x7d' :: rest => some (es, rest)
          | _ => none
    | _ => none

end

/-- The entries of a document and the table that its keys go to. -/
structure Draft where
  /-- The entries of the whole document. -/
  entries : Entries
  /-- The table of the last header. -/
  current : List String

/-- The header of a table. -/
def Draft.openTable? (d : Draft) (path : List String) : Option Draft :=
  match path.getLast? with
  | some last => (within? (defineTable? last) path.dropLast d.entries).map fun es => ⟨es, path⟩
  | none => none

/-- The header of a table in a list of tables. -/
def Draft.openItem? (d : Draft) (path : List String) : Option Draft :=
  match path.getLast? with
  | some last => (within? (defineItem? last) path.dropLast d.entries).map fun es => ⟨es, path⟩
  | none => none

/-- A key with a value in the current table. -/
def Draft.bind? (d : Draft) (key : List String) (v : Toml) : Option Draft :=
  (within? (Toml.bind? key v) d.current d.entries).map fun es => { d with entries := es }

/-- What a header or a line with a key adds to a document, and what follows the line. -/
def statement? (d : Draft) : List Char → Option (Draft × List Char)
  | '[' :: '[' :: rest =>
    match key? rest with
    | some (path, ']' :: ']' :: rest) => do
      let rest ← endOfLine? rest
      let d ← d.openItem? path
      some (d, rest)
    | _ => none
  | '[' :: rest =>
    match key? rest with
    | some (path, ']' :: rest) => do
      let rest ← endOfLine? rest
      let d ← d.openTable? path
      some (d, rest)
    | _ => none
  | s =>
    match key? s with
    | some (key, '=' :: rest) => do
      let (v, rest) ← value? (rest.length + 1) maxDepth (skipBlanks rest)
      let rest ← endOfLine? rest
      let d ← d.bind? key v
      some (d, rest)
    | _ => none

/-- A document with the lines of a text added. -/
def statementsFrom? : Nat → Draft → List Char → Option Draft
  | 0, _, _ => none
  | steps + 1, d, s =>
    match skipLines? s with
    | none => none
    | some [] => some d
    | some s =>
      match statement? d s with
      | some (d, rest) => statementsFrom? steps d rest
      | none => none

/-- A text without the byte order mark it begins with. -/
def dropMark : List Char → List Char
  | '\uFEFF' :: rest => rest
  | s => s

/-- The table that a document describes. -/
def read? (text : String) : Option (List (String × Toml)) :=
  let s := dropMark text.toList
  (statementsFrom? (s.length + 1) ⟨[], []⟩ s).map fun d => finishEntries d.entries

end StoredRoutines.Toml
