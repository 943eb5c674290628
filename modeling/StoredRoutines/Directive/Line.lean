import StoredRoutines.Directive.Basic
import StoredRoutines.Text.Split

/-!
# Directive lines

The form of the comments that carry directives.

## Main definitions

- `afterComment?` — what follows `-- keyword:` on a line
- `designation?` — the kind and the arguments of a type directive
- `returnType?` — the type of a return directive
- `listParameter?` — the list format of a parameter directive
- `bulkInsertArguments?` — the table and the column list of a bulk insert

## Design notes

Blanks, words and marks exclude one another, so each recogniser takes the longest run of a class
and never has to look back. A line may itself hold line feeds; they count as white space, except
that the arguments of a type directive end at one.
-/

namespace StoredRoutines.DirectiveLine

/-- The word that a text begins with, and what follows it. -/
def word? (s : List Char) : Option (List Char × List Char) :=
  let word := s.takeWhile Text.isWord
  if word.isEmpty then none else some (word, s.dropWhile Text.isWord)

/-- A character that may serve in a list format. -/
def isMark (c : Char) : Bool :=
  !Text.isBlank c && c != '-'

/-- The mark that a text begins with, and what follows it. -/
def mark? : List Char → Option (Char × List Char)
  | [] => none
  | c :: rest => if isMark c then some (c, rest) else none

/-- What follows `keyword` and a colon in a comment of two hyphens and white space. -/
def afterComment? (keyword : String) (line : List Char) : Option (List Char) := do
  let s ← ['-', '-'].isPrefixOf? (Text.trimStart line)
  let s ← Text.afterBlanks? s
  (keyword.toList ++ [':']).isPrefixOf? s

/-- The kind of a type directive, and its arguments if there are any. The arguments run up to
    the end of the line, white space at the end included. -/
def designation? (line : String) : Option (String × Option String) := do
  let s ← afterComment? "type" line.toList
  let (kind, s) ← word? (Text.trimStart s)
  let s := Text.trimStart s
  if s.isEmpty then
    some (String.ofList kind, none)
  else if (s.dropWhile (· != '\n')).all Text.isBlank then
    some (String.ofList kind, some (String.ofList (s.takeWhile (· != '\n'))))
  else
    none

/-- The characters of a return type: those of words, and the vertical bar. -/
def isReturnChar (c : Char) : Bool :=
  Text.isWord c || c == '|'

/-- The type of a return directive. -/
def returnType? (line : String) : Option String := do
  let s ← afterComment? "return" line.toList
  let s := Text.trimStart s
  let type := s.takeWhile isReturnChar
  if !type.isEmpty && (s.dropWhile isReturnChar).all Text.isBlank then
    some (String.ofList type)
  else
    none

/-- Whether a line is meant as a parameter directive. -/
def isListParameter (line : String) : Bool :=
  (afterComment? "param" line.toList).isSome

/-- The delimiter of a list that states none. -/
def defaultDelimiter : Char := ','

/-- The enclosure of a list that states none. -/
def defaultEnclosure : Char := '"'

/-- The escape character of a list that states none. -/
def defaultEscape : Char := '\\'

/-- Delimiter, enclosure and escape character, each after white space, and nothing else. -/
def marks? (s : List Char) : Option (Char × Char × Char) := do
  let s ← Text.afterBlanks? s
  let (delimiter, s) ← mark? s
  let s ← Text.afterBlanks? s
  let (enclosure, s) ← mark? s
  let s ← Text.afterBlanks? s
  let (escape, s) ← mark? s
  if s.all Text.isBlank then some (delimiter, enclosure, escape) else none

/-- The list format of a parameter directive. -/
def listParameter? (line : String) : Option ListParameter := do
  let s ← afterComment? "param" line.toList
  let (name, s) ← word? (Text.trimStart s)
  let s ← Text.afterBlanks? s
  let (listType, s) ← word? s
  if s.all Text.isBlank then
    some ⟨String.ofList name, String.ofList listType, defaultDelimiter, defaultEnclosure,
      defaultEscape⟩
  else
    let (delimiter, enclosure, escape) ← marks? s
    some ⟨String.ofList name, String.ofList listType, delimiter, enclosure, escape⟩

/-- The characters of a table or column name. -/
def isIdentifierChar (c : Char) : Bool :=
  c.isAlphanum || c == '_'

/-- The table and the column list that the arguments of a bulk insert consist of. -/
def bulkInsertArguments? (arguments : String) : Option (String × String) := do
  let s := arguments.toList
  let table := s.takeWhile isIdentifierChar
  if table.isEmpty then none
  else
    let columns ← Text.afterBlanks? (s.dropWhile isIdentifierChar)
    if !columns.isEmpty && columns.all fun c => isIdentifierChar c || c == ',' then
      some (String.ofList table, String.ofList columns)
    else
      none

end StoredRoutines.DirectiveLine
