/-!
# Paths

Paths are texts; their parts are separated by slashes.

## Main definitions

- `Path` — the text of a path
- `Path.join` — a path below another
- `Path.fileName?`, `Path.stem`, `Path.parent?` — the last part, without its extension, and the
  path that remains without it
- `Path.parts` — the parts by which paths are compared
- `Path.precedes` — the order of paths

## Design notes

Empty parts and single full stops say nothing, except that a relative path may begin with a full
stop. They are passed over wherever a path is read, but its text is kept as it was written.
-/

namespace StoredRoutines

/-- A path as it was written. -/
structure Path where
  /-- The text of the path. -/
  text : String
  deriving DecidableEq, Repr

/-- A part of a path. -/
inductive PathPart where
  /-- The root that an absolute path begins with. -/
  | root
  /-- The full stop that a relative path begins with. -/
  | here
  /-- Two full stops. -/
  | up
  /-- A name. -/
  | name (text : String)
  deriving DecidableEq, Repr

namespace PathPart

/-- The place of the sorts of parts in their order. -/
def rank : PathPart → Nat
  | root => 0
  | here => 1
  | up => 2
  | name _ => 3

/-- Whether a part comes before or is equal to another. -/
def le : PathPart → PathPart → Bool
  | name a, name b => a ≤ b
  | a, b => a.rank ≤ b.rank

end PathPart

namespace Path

/-- The pieces between the slashes of a text. -/
def pieces : List Char → List (List Char)
  | [] => [[]]
  | '/' :: rest => [] :: pieces rest
  | c :: rest =>
    match pieces rest with
    | [] => [[c]]
    | p :: ps => (c :: p) :: ps

/-- The last piece of a path, the slashes at its end left aside. -/
def lastPiece? (p : Path) : Option (List Char) :=
  (pieces p.text.toList).reverse.find? fun piece => piece ≠ []

/-- The part that a piece stands for. -/
def part? (piece : List Char) : Option PathPart :=
  if piece = [] ∨ piece = ['.'] then none
  else if piece = ['.', '.'] then some .up
  else some (.name (String.ofList piece))

/-- Whether a path starts at the root. -/
def isAbsolute (p : Path) : Bool :=
  p.text.toList.head? == some '/'

/-- The parts of a path. -/
def parts (p : Path) : List PathPart :=
  let ps := pieces p.text.toList
  (if p.isAbsolute then [.root] else if ps.head? == some ['.'] then [.here] else []) ++
    ps.filterMap part?

/-- The last part of a path, if it is a name. -/
def fileName? (p : Path) : Option String :=
  match p.parts.getLast? with
  | some (.name n) => some n
  | _ => none

/-- A file name without its extension. A full stop at the very beginning starts no extension. -/
def stemOfName (name : String) : String :=
  let reversed := name.toList.reverse
  match reversed.dropWhile (· != '.') with
  | [] => name
  | _ :: before => if before.isEmpty then name else String.ofList before.reverse

/-- The name of the file that a path leads to, without its extension. -/
def stem (p : Path) : String :=
  match p.fileName? with
  | some name => stemOfName name
  | none => ""

/-- A reversed text without the parts at its end that say nothing. -/
def dropTrivialReversed : List Char → List Char
  | '/' :: rest => dropTrivialReversed rest
  | '.' :: '/' :: rest => dropTrivialReversed rest
  | ['.'] => []
  | s => s

/-- A reversed text without the slash it begins with. -/
def dropSlash : List Char → List Char
  | '/' :: rest => rest
  | s => s

/-- The path that remains without the last part; the root and the empty path have none. -/
def parent? (p : Path) : Option Path :=
  let s := p.text.toList
  let start := if p.isAbsolute || (pieces s).head? == some ['.'] then 1 else 0
  let body := dropTrivialReversed (s.drop start).reverse
  if body.isEmpty then
    if start = 1 && !p.isAbsolute then some ⟨""⟩ else none
  else
    let rest := dropTrivialReversed (dropSlash (body.dropWhile (· != '/')))
    some ⟨String.ofList (s.take start ++ rest.reverse)⟩

/-- The text of the directory that a path lies in, empty if there is none. -/
def directory (p : Path) : String :=
  match p.parent? with
  | some d => d.text
  | none => ""

/-- A path below another. An absolute path stays as it is. -/
def join (base : Path) (p : Path) : Path :=
  if p.isAbsolute || base.text.isEmpty then p
  else if base.text.toList.getLast? == some '/' then ⟨base.text ++ p.text⟩
  else ⟨base.text ++ "/" ++ p.text⟩

/-- Whether one list of parts comes before or is equal to another: the first parts that differ
    decide, and a path comes before the paths below it. -/
def partsLe : List PathPart → List PathPart → Bool
  | [], _ => true
  | _ :: _, [] => false
  | a :: as, b :: bs => if a = b then partsLe as bs else a.le b

/-- The order of paths: part by part, not by their text. -/
def precedes (p q : Path) : Bool :=
  partsLe p.parts q.parts

end Path

end StoredRoutines
