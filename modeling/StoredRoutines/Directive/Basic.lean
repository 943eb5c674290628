import StoredRoutines.LoadError

/-!
# Directives

What the comments above the body of a routine say about it.

## Main definitions

- `Designation` — how the routine is called and what its result looks like
- `ListParameter` — the format of a parameter that takes a list packed into a string
- `Directives` — all directives of a routine
- `Directive` — a single one, for listing them
-/

namespace StoredRoutines

/-- How a routine is called and what its result looks like. -/
inductive Designation where
  /-- Rows are inserted into the columns of a table. -/
  | bulkInsert (table : String) (columns : List String)
  /-- Rows are returned by a unique key. -/
  | rowsWithKey (columns : List String)
  /-- Rows are returned by an index. -/
  | rowsWithIndex (columns : List String)
  /-- Any other designation. -/
  | plain (kind : String)
  deriving DecidableEq, Repr

namespace Designation

/-- The word a designation is written with. -/
def kind : Designation → String
  | bulkInsert _ _ => "bulk_insert"
  | rowsWithKey _ => "rows_with_key"
  | rowsWithIndex _ => "rows_with_index"
  | plain kind => kind

/-- The table of a bulk insert. -/
def table? : Designation → Option String
  | bulkInsert table _ => some table
  | _ => none

/-- The columns of a designation that takes some. -/
def columns? : Designation → Option (List String)
  | bulkInsert _ columns => some columns
  | rowsWithKey columns => some columns
  | rowsWithIndex columns => some columns
  | plain _ => none

/-- The designations whose result is a single value. -/
def valueKinds : List String := ["function", "singleton0", "singleton1"]

/-- Whether the result is a single value, whose type is declared. -/
def returnsValue (d : Designation) : Bool :=
  valueKinds.contains d.kind

end Designation

/-- The format of a parameter that takes a list packed into a string. -/
structure ListParameter where
  /-- The name of the parameter. -/
  name : String
  /-- The type of the list. -/
  listType : String
  /-- The character between two values. -/
  delimiter : Char
  /-- The character around a value. -/
  enclosure : Char
  /-- The character before a character that is taken literally. -/
  escape : Char
  deriving DecidableEq, Repr

/-- The directives of a routine. -/
structure Directives where
  /-- The designation. -/
  designation : Designation
  /-- The type of the returned value, if the designation has one. -/
  returnType : Option String
  /-- The list parameters in order of appearance. -/
  listParameters : List ListParameter
  deriving DecidableEq, Repr

/-- A single directive. -/
inductive Directive where
  /-- A type directive. -/
  | designation (d : Designation)
  /-- A return directive. -/
  | returnType (name : String)
  /-- A parameter directive. -/
  | listParameter (p : ListParameter)
  deriving DecidableEq, Repr

namespace Directives

/-- The directives one by one. -/
def toList (d : Directives) : List Directive :=
  .designation d.designation ::
    (d.returnType.toList.map .returnType ++ d.listParameters.map .listParameter)

end Directives

end StoredRoutines
