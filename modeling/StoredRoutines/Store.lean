import StoredRoutines.FileTree
import StoredRoutines.Record.Json

/-!
# The record store

The records of all routines live in one file, which is read at the start of a run and replaced
as a whole at its end.

## Main definitions

- `Store` — the path of the file and the records by name
- `Store.load` — reads the file; a missing file holds no records
- `Store.insert`, `Store.remove`, `Store.retain` — changes in memory
- `Store.save` — writes a sibling file and moves it to the path
-/

namespace StoredRoutines

/-- Why the records cannot be read or written. -/
inductive StoreError where
  /-- The file cannot be read. -/
  | unreadable (path : Path)
  /-- The file does not hold records. -/
  | malformed (path : Path)
  /-- The directory of the file cannot be made. -/
  | directoryNotMade (path : Path)
  /-- The sibling file cannot be written. -/
  | notWritten (path : Path)
  /-- The file cannot be replaced. -/
  | notReplaced (path : Path)
  deriving DecidableEq, Repr

/-- The wording of a cause. -/
def StoreError.message : StoreError → String
  | unreadable path => "Failed to read metadata file: " ++ path.text
  | malformed path => "Failed to parse metadata file: " ++ path.text
  | directoryNotMade path => "Failed to create metadata directory: " ++ path.text
  | notWritten path => "Failed to write metadata file: " ++ path.text
  | notReplaced path => "Failed to replace metadata file: " ++ path.text

/-- The records of a run. -/
structure Store where
  /-- Where they are kept. -/
  path : Path
  /-- The records by the name of the routine. -/
  records : SortedMap RoutineRecord

namespace Store

/-- The records that a file holds. -/
def load (files : FileTree) (path : Path) : Except StoreError Store :=
  if files.doesExist path then
    match files.readText? path with
    | none => .error (.unreadable path)
    | some text =>
      match Records.read? text with
      | none => .error (.malformed path)
      | some records => .ok ⟨path, records⟩
  else .ok ⟨path, SortedMap.empty⟩

/-- The record of a routine. -/
def get? (s : Store) (name : String) : Option RoutineRecord :=
  s.records.get? name

/-- The store with a record under the name it carries. -/
def insert (s : Store) (record : RoutineRecord) : Store :=
  { s with records := s.records.insert record.name record }

/-- The store without the record of a routine. -/
def remove (s : Store) (name : String) : Store :=
  { s with records := s.records.erase name }

/-- The names of the records that `keep` refuses, and the store without them. -/
def retain (s : Store) (keep : String → Bool) : List String × Store :=
  (s.records.keys.filter fun name => !keep name, { s with records := s.records.filterKeys keep })

/-- The names of all records in order. -/
def names (s : Store) : List String :=
  s.records.keys

/-- The sibling file that is written before the file is replaced. -/
def temporaryPath (s : Store) : Path :=
  ⟨s.path.text ++ ".tmp"⟩

/-- The text of the file. -/
def text (s : Store) : String :=
  Records.print s.records

/-- Makes the directory of the file where it is missing. -/
def prepareDirectory (s : Store) (files : FileTree) : Except StoreError Unit × FileTree :=
  match s.path.parent? with
  | none => (.ok (), files)
  | some parent =>
    match files.makeDirectories parent with
    | (true, files) => (.ok (), files)
    | (false, files) => (.error (.directoryNotMade parent), files)

/-- Writes the sibling file and moves it to the path. -/
def replaceFile (s : Store) (files : FileTree) : Except StoreError Unit × FileTree :=
  match files.write? s.temporaryPath s.text.toUTF8 with
  | none => (.error (.notWritten s.temporaryPath), files)
  | some files =>
    match files.rename? s.temporaryPath s.path with
    | none => (.error (.notReplaced s.path), files)
    | some files => (.ok (), files)

/-- Writes the records to their file. -/
def save (s : Store) (files : FileTree) : Except StoreError Unit × FileTree :=
  match s.prepareDirectory files with
  | (.error e, files) => (.error e, files)
  | (.ok (), files) => s.replaceFile files

end Store

end StoredRoutines
