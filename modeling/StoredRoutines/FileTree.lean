import StoredRoutines.FileTree.Node
import StoredRoutines.Path
import StoredRoutines.Text.ByteLength

/-!
# File trees

The files that a run reads and writes, as a value.

## Main definitions

- `FileTree` — the directory at the root and all that lies below it
- `FileTree.locate?`, `FileTree.resolve?` — the location that a path leads to
- `FileTree.readText?`, `FileTree.modified?`, `FileTree.filesBelow`, `FileTree.directoriesBelow` —
  reading
- `FileTree.makeDirectories`, `FileTree.write?`, `FileTree.add`, `FileTree.rename?`,
  `FileTree.removeAll` — writing

## Design notes

Two paths lead to one file exactly if they lead to one location. The writing operations return
`none` where the file system refuses them; there are no links. A path with a zero character or of
more than `longestPath` bytes is refused by every operation, except that a path is resolved
whatever its length, since that is done piece by piece.
-/

namespace StoredRoutines

/-- The files and directories below the root. -/
structure FileTree where
  /-- The directory at the root. -/
  root : Node
  /-- The location that relative paths start from. -/
  workingDirectory : Location
  /-- The time at which changes are made, in seconds. -/
  now : Int64
  /-- No directory has two entries of one name. -/
  tidy : root.Tidy

namespace FileTree

/-- A tree without files, in whose root relative paths start. -/
def empty (now : Int64) : FileTree where
  root := .directory now []
  workingDirectory := []
  now := now
  tidy := .directory now List.nodup_nil fun _ h => nomatch h

/-- The node at a location. -/
def node? (t : FileTree) (l : Location) : Option Node :=
  t.root.at? l

/-- Whether there is a directory at a location. -/
def isDirectoryAt (t : FileTree) (l : Location) : Bool :=
  match t.node? l with
  | some n => n.isDirectory
  | none => false

/-- The tree with a change of the node at a location. -/
def change (t : FileTree) (l : Location) (f : Node → Node)
    (hf : ∀ n : Node, n.Tidy → (f n).Tidy) : FileTree where
  root := t.root.changeAt f l
  workingDirectory := t.workingDirectory
  now := t.now
  tidy := t.tidy.changeAt hf l

theorem node?_change_self {t : FileTree} {l : Location} {f : Node → Node} {n : Node}
    (hf : ∀ n : Node, n.Tidy → (f n).Tidy) (h : t.node? l = some n) :
    (t.change l f hf).node? l = some (f n) :=
  Node.at?_changeAt_self h

/-- The tree with another time of the last change of a node. -/
def setModified (t : FileTree) (l : Location) (time : Int64) : FileTree :=
  t.change l (·.setModified time) fun _ h => h.setModified time

/-! ### Paths -/

/-- The length in bytes up to which paths are accepted. -/
def longestPath : Nat := 4095

/-- Whether a path can be handed to an operation at all. -/
def accepts (p : Path) : Bool :=
  !p.text.isEmpty && Text.byteLength p.text.toList ≤ longestPath && !p.text.toList.contains '\x00'

/-- The location that a single piece of a path leads to from a directory. -/
def step? (t : FileTree) (l : Location) (piece : List Char) : Option Location :=
  if t.isDirectoryAt l then
    if piece = [] ∨ piece = ['.'] then some l
    else if piece = ['.', '.'] then some l.dropLast
    else
      let next := l ++ [String.ofList piece]
      if (t.node? next).isSome then some next else none
  else none

/-- The location at which a path starts. -/
def startOf (t : FileTree) (p : Path) : Location :=
  if p.isAbsolute then [] else t.workingDirectory

/-- The location that the pieces of a path lead to. -/
def follow? (t : FileTree) (l : Location) (pieces : List (List Char)) : Option Location :=
  pieces.foldlM t.step? l

/-- The location that a path of any length leads to; the empty path leads nowhere. -/
def resolve? (t : FileTree) (p : Path) : Option Location :=
  if p.text.isEmpty then none else t.follow? (t.startOf p) (Path.pieces p.text.toList)

/-- The location that a path leads to. -/
def locate? (t : FileTree) (p : Path) : Option Location :=
  if accepts p then t.resolve? p else none

/-- The path of a location. -/
def pathOf (l : Location) : Path :=
  ⟨"/" ++ "/".intercalate l⟩

/-! ### Reading -/

/-- Whether a path leads anywhere. -/
def doesExist (t : FileTree) (p : Path) : Bool :=
  (t.locate? p).isSome

/-- Whether a path leads to a directory. -/
def isDirectory (t : FileTree) (p : Path) : Bool :=
  match t.locate? p with
  | some l => t.isDirectoryAt l
  | none => false

/-- The text of the file at a location, if it is one in UTF-8. -/
def textAt? (t : FileTree) (l : Location) : Option String :=
  match t.node? l with
  | some (.file content _) => String.fromUTF8? content
  | _ => none

/-- The text of the file that a path leads to. -/
def readText? (t : FileTree) (p : Path) : Option String :=
  (t.locate? p).bind t.textAt?

/-- The time of the last change of the node at a location. -/
def modifiedAt? (t : FileTree) (l : Location) : Option Int64 :=
  (t.node? l).map Node.modified

/-- The time of the last change of the node that a path leads to. -/
def modified? (t : FileTree) (p : Path) : Option Int64 :=
  (t.locate? p).bind t.modifiedAt?

/-- The names on the way from a directory to the files below it. -/
def filesBelow (t : FileTree) (l : Location) : List Location :=
  match t.node? l with
  | some n => n.files
  | none => []

/-- The names on the way from a directory to itself and to the directories below it. -/
def directoriesBelow (t : FileTree) (l : Location) : List Location :=
  match t.node? l with
  | some n => n.directories
  | none => []

/-! ### Entries -/

/-- A place in a directory, taken or free. -/
structure Slot where
  /-- Where the directory lies. -/
  directory : Location
  /-- The name of the entry. -/
  name : String

/-- Where a node in this place lies. -/
def Slot.location (s : Slot) : Location :=
  s.directory ++ [s.name]

/-- The place of the node at a location; the root has none. -/
def slotOf? (l : Location) : Option Slot :=
  l.getLast?.map fun name => ⟨l.dropLast, name⟩

/-- The tree with a node in a place. -/
def link (t : FileTree) (s : Slot) (n : Node) (hn : n.Tidy) : FileTree :=
  t.change s.directory (·.withEntry t.now s.name n) fun _ h => h.withEntry t.now s.name hn

/-- The tree without the node in a place. -/
def unlink (t : FileTree) (s : Slot) : FileTree :=
  t.change s.directory (·.withoutEntry t.now s.name) fun _ h => h.withoutEntry t.now s.name

/-- The tree with a file of the given content in a place. If there is a file, it is overwritten,
    which leaves its directory as it is. -/
def putFile (t : FileTree) (s : Slot) (content : ByteArray) (modified : Int64) : FileTree :=
  if (t.node? s.location).isSome then
    t.change s.location (fun _ => .file content modified) fun _ _ => .file content modified
  else t.link s (.file content modified) (.file content modified)

/-! ### Writing -/

/-- Whether a piece of a path can name something new: it fits into 255 bytes and does not hold
    the zero character. -/
def canName (piece : List Char) : Bool :=
  Text.byteLength piece ≤ 255 && !piece.contains '\x00'

/-- The directories along the pieces of a path, made where they are missing. The tree holds those
    that were made even if a file is in the way. -/
def makeAlong (t : FileTree) (l : Location) : List (List Char) → Bool × FileTree
  | [] => (t.isDirectoryAt l, t)
  | piece :: rest =>
    match t.step? l piece with
    | some next => makeAlong t next rest
    | none =>
      if t.isDirectoryAt l && canName piece then
        let slot : Slot := ⟨l, String.ofList piece⟩
        let made := t.link slot (.directory t.now [])
          (.directory t.now List.nodup_nil fun _ h => nomatch h)
        makeAlong made slot.location rest
      else (false, t)

/-- The directories on a path, made where they are missing. A directory with a full stop behind
    it is not made: it has to be there. -/
def makeDirectories (t : FileTree) (p : Path) : Bool × FileTree :=
  let pieces := Path.pieces p.text.toList
  if p.text.isEmpty then (true, t)
  else if !accepts p then (false, t)
  else if p.lastPiece? = some ['.'] then
    let named := (pieces.reverse.dropWhile fun q => q = [] ∨ q = ['.']).reverse
    let made := (t.makeAlong (t.startOf p) named.dropLast).2
    (made.isDirectory p, made)
  else t.makeAlong (t.startOf p) pieces

/-- The place of the file that a path names in a directory that is there. -/
def slot? (t : FileTree) (p : Path) : Option Slot :=
  let pieces := Path.pieces p.text.toList
  match pieces.getLast? with
  | none => none
  | some last =>
    if !accepts p then none
    else if last = [] ∨ last = ['.'] ∨ last = ['.', '.'] then none
    else if !canName last then none
    else
      match t.follow? (t.startOf p) pieces.dropLast with
      | some l => if t.isDirectoryAt l then some ⟨l, String.ofList last⟩ else none
      | none => none

/-- The place of the file that a path names, unless a directory is there. -/
def fileSlot? (t : FileTree) (p : Path) : Option Slot :=
  match t.slot? p with
  | some s => if t.isDirectoryAt s.location then none else some s
  | none => none

/-- The tree with a file of the given content. -/
def write? (t : FileTree) (p : Path) (content : ByteArray) : Option FileTree :=
  (t.fileSlot? p).map fun s => t.putFile s content t.now

/-- The tree with a file of the given content and time, in directories that are made where they
    are missing. -/
def add (t : FileTree) (p : Path) (content : ByteArray) (modified : Int64) : FileTree :=
  let t := ((p.parent?.map t.makeDirectories).map (·.2)).getD t
  ((t.fileSlot? p).map fun s => t.putFile s content modified).getD t

/-- The tree with a file moved to another path, where it replaces the file that is there. -/
def rename? (t : FileTree) (source target : Path) : Option FileTree := do
  let old ← (t.locate? source).bind slotOf?
  let new ← t.fileSlot? target
  match t.node? old.location with
  | some (.file content modified) =>
    some ((t.unlink old).link new (.file content modified) (.file content modified))
  | _ => none

/-- Whether a path leads to a directory by full stops at its end and not by its name. -/
def isNameless (p : Path) : Bool :=
  p.lastPiece? = some ['.'] || p.lastPiece? = some ['.', '.']

/-- The tree without what a path leads to and all that lies below. A directory that the path does
    not name stays behind without its entries. -/
def removeAll (t : FileTree) (p : Path) : FileTree :=
  match t.locate? p with
  | none => t
  | some l =>
    if isNameless p then t.change l (·.emptied t.now) fun _ h => h.emptied t.now
    else ((slotOf? l).map t.unlink).getD t

end FileTree

end StoredRoutines
