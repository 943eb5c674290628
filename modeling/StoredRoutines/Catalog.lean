import StoredRoutines.Text.Blank
import StoredRoutines.Text.Letter

/-!
# The catalog

What a database reports about its routines and tables, and the session settings under which a
routine is created.

## Main definitions

- `RoutineKind` — procedures and functions
- `SessionSettings` — the settings that a routine keeps from the session it was created in
- `CatalogParameter`, `CatalogRoutine` — a routine as the catalog lists it
- `TableColumn`, `SchemaColumn` — the columns of one table, and of all tables of the schema
- `baseType` — the leading word of a column type
-/

namespace StoredRoutines

/-- The two kinds of stored routine. -/
inductive RoutineKind where
  | procedure
  | function
  deriving DecidableEq, Repr

namespace RoutineKind

/-- The kind in lower case. -/
def word : RoutineKind → String
  | procedure => "procedure"
  | function => "function"

/-- The kind in upper case. -/
def heading : RoutineKind → String
  | procedure => "PROCEDURE"
  | function => "FUNCTION"

/-- The kind that a word names, whatever the case of its ASCII letters. -/
def parse? (s : String) : Option RoutineKind :=
  if s.toList.map Char.toLower = procedure.word.toList then some procedure
  else if s.toList.map Char.toLower = function.word.toList then some function
  else none

end RoutineKind

/-- The session settings that the catalog keeps for a routine. -/
structure SessionSettings where
  /-- The SQL mode. -/
  sqlMode : String
  /-- The client character set. -/
  characterSet : String
  /-- The connection collation. -/
  collation : String
  deriving DecidableEq, Repr

/-- A parameter as the catalog lists it. The return value of a function is listed as a parameter
    without a name. -/
structure CatalogParameter where
  /-- The name, if the entry has one. -/
  name : Option String
  /-- The bare data type. -/
  dataType : String
  /-- The type as declared, with length and attributes. -/
  declaredType : String
  /-- The character set of a character type. -/
  characterSet : Option String
  /-- The collation of a character type. -/
  collation : Option String
  deriving DecidableEq, Repr

/-- The leading word of a column type: `int(10) unsigned` is an `int`. -/
def baseType (columnType : String) : String :=
  String.ofList
    ((Text.trimStart columnType.toList).takeWhile fun c => Text.isAlphanumeric c || c == '_')

namespace CatalogParameter

/-- A named parameter of a declared type, without character set and collation. -/
def ofDeclaration (name declaredType : String) : CatalogParameter :=
  ⟨some name, baseType declaredType, declaredType, none, none⟩

/-- The declared type followed by its character set and its collation. -/
def descriptor (p : CatalogParameter) : String :=
  p.declaredType ++
    (match p.characterSet with
      | some charset => " character set " ++ charset
      | none => "") ++
    (match p.collation with
      | some collation => " collation " ++ collation
      | none => "")

end CatalogParameter

/-- A routine as the catalog lists it. -/
structure CatalogRoutine where
  /-- The name of the routine. -/
  name : String
  /-- Procedure or function. -/
  kind : RoutineKind
  /-- The settings of the session that created it. -/
  settings : SessionSettings
  /-- The parameters in order of declaration, the return value of a function included. -/
  parameters : List CatalogParameter
  deriving DecidableEq, Repr

/-- A column of a table. -/
structure TableColumn where
  /-- The name of the column. -/
  field : String
  /-- The full type of the column. -/
  columnType : String
  deriving DecidableEq, Repr

/-- A column of some table of the schema. -/
structure SchemaColumn where
  /-- The table. -/
  table : String
  /-- The column of that table. -/
  column : String
  /-- The full type of the column. -/
  columnType : String
  /-- The character set of a character column. -/
  characterSet : Option String
  deriving DecidableEq, Repr

end StoredRoutines
