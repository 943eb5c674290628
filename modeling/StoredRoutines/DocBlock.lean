import StoredRoutines.Signature
import StoredRoutines.Text.Split

/-!
# Doc blocks

The documentation of a routine is a comment `/** … */` above its signature. Its first paragraph
is the short description, the other paragraphs before the first tag the long one, and every
`@param` tag describes a parameter.

## Main definitions

- `DocBlock` — descriptions of a routine and of its parameters
- `DocBlock.extract` — the doc block of a source
- `commentLines` — the lines of the comment without their decoration
- `ofBody` — the doc block that undecorated lines describe
-/

namespace StoredRoutines

/-- The documentation of a parameter. -/
structure DocParameter where
  /-- The name. -/
  name : String
  /-- The description, on one line. -/
  description : String
  deriving DecidableEq, Repr

/-- The documentation of a routine. -/
structure DocBlock where
  /-- The first paragraph, on one line. -/
  short : String
  /-- The other paragraphs, separated by empty lines. -/
  long : String
  /-- The documented parameters in order of appearance. -/
  parameters : List DocParameter
  deriving DecidableEq, Repr

namespace DocBlock

/-- The documentation of a routine without a comment. -/
def empty : DocBlock := ⟨"", "", []⟩

/-- The description of a parameter; of two tags for one parameter the first counts. -/
def description? (doc : DocBlock) (name : String) : Option String :=
  (doc.parameters.find? fun p => p.name == name).map (·.description)

/-! ### The lines of the comment -/

/-- The characters that open a doc comment. -/
def opener : List Char := ['/', '*', '*']

/-- The characters that close a comment. -/
def closer : List Char := ['*', '/']

/-- A text without the openers at its start. -/
def dropOpeners : List Char → List Char
  | '/' :: '*' :: '*' :: rest => dropOpeners rest
  | s => s

/-- A reversed text without the closers at its end. -/
def dropClosersReversed : List Char → List Char
  | '/' :: '*' :: rest => dropClosersReversed rest
  | s => s

/-- A text without the closers at its end. -/
def dropClosers (s : List Char) : List Char :=
  (dropClosersReversed s.reverse).reverse

/-- A text without the asterisk at its start. -/
def dropAsterisk : List Char → List Char
  | '*' :: rest => rest
  | s => s

/-- Whether the comment opens on a line. -/
def opens (line : String) : Bool :=
  opener.isPrefixOf (Text.trimStart line.toList)

/-- Whether the comment closes at the end of a line. -/
def closes (line : String) : Bool :=
  closer.isSuffixOf (Text.trim line.toList)

/-- A line of the comment without its decoration. -/
def undecorated (line : String) : List Char :=
  Text.trim (dropAsterisk (Text.trim (dropClosers (dropOpeners (Text.trim line.toList)))))

/-- The lines up to and including the first that closes the comment. -/
def throughClosing : List String → List String
  | [] => []
  | line :: rest => if closes line then [line] else line :: throughClosing rest

/-- The lines of the first doc comment above the signature, without their decoration. -/
def commentLines (lines : List String) : Option (List (List Char)) :=
  let header := lines.takeWhile fun line => !Signature.isOnLine line
  match header.dropWhile fun line => !opens line with
  | [] => none
  | comment => some ((throughClosing comment).map undecorated)

/-! ### Paragraphs and tags -/

/-- Whether a tag starts on a line. -/
def isTagLine : List Char → Bool
  | '@' :: _ => true
  | _ => false

/-- The paragraphs of some lines, given the lines of the paragraph that is being read. -/
def paragraphsFrom (current : List (List Char)) : List (List Char) → List (List (List Char))
  | [] => if current.isEmpty then [] else [current]
  | line :: rest =>
    if line.isEmpty then
      if current.isEmpty then paragraphsFrom [] rest else current :: paragraphsFrom [] rest
    else paragraphsFrom (current ++ [line]) rest

/-- The paragraphs of some lines: runs of lines that are not empty. -/
def paragraphs (lines : List (List Char)) : List (List (List Char)) :=
  paragraphsFrom [] lines

/-- A tag with the lines that continue it, joined by blanks, and what follows. -/
def tagsFrom (tag : List Char) : List (List Char) → List (List Char)
  | [] => [tag]
  | line :: rest =>
    if isTagLine line then tag :: tagsFrom line rest
    else if line.isEmpty then tagsFrom tag rest
    else tagsFrom (tag ++ ' ' :: line) rest

/-- The tags of some lines of which the first starts a tag. -/
def tags : List (List Char) → List (List Char)
  | [] => []
  | line :: rest => tagsFrom line rest

/-- The parameter that a tag documents: `@param`, white space, a name, and a description after
    more white space. -/
def parameter? (tag : List Char) : Option DocParameter :=
  match "@param".toList.isPrefixOf? tag with
  | some (c :: rest) =>
    if Text.isBlank c then
      let text := Text.trim rest
      let name := text.takeWhile fun c => !Text.isBlank c
      if name.isEmpty then none
      else
        let description := (text.dropWhile fun c => !Text.isBlank c).drop 1
        some ⟨String.ofList name, String.ofList (Text.trim description)⟩
    else none
  | _ => none

/-- The doc block that undecorated lines describe. -/
def ofBody (body : List (List Char)) : DocBlock :=
  let paragraphs := paragraphs (body.takeWhile fun line => !isTagLine line)
  { short := String.ofList (List.intercalate [' '] (paragraphs.headD []))
    long := String.ofList
      (List.intercalate ['\n', '\n'] (paragraphs.tail.map (List.intercalate ['\n'])))
    parameters := (tags (body.dropWhile fun line => !isTagLine line)).filterMap parameter? }

/-- The doc block of a source given by its lines. -/
def extract (lines : List String) : DocBlock :=
  match commentLines lines with
  | none => empty
  | some body => ofBody body

end DocBlock

end StoredRoutines
