import StoredRoutines.Directive.Basic
import StoredRoutines.SortedMap

/-!
# Routine records

What is kept about a routine after it was loaded. Wrappers are generated from the records, and
the next run decides by them what has to be loaded again.

## Main definitions

- `RoutineParameter` — a parameter of the routine, with its list format if it has one
- `WrapperDoc` — the documentation of the wrapper
- `RoutineRecord` — the whole record
-/

namespace StoredRoutines

/-- A parameter of a loaded routine. -/
structure RoutineParameter where
  /-- The name. -/
  name : String
  /-- The bare data type. -/
  dataType : String
  /-- The type as declared. -/
  declaredType : String
  /-- The character set of a character type. -/
  characterSet : Option String
  /-- The collation of a character type. -/
  collation : Option String
  /-- The declared type with character set and collation. -/
  descriptor : String
  /-- The format of the list that the parameter takes, if it takes one. -/
  format : Option ListParameter
  deriving DecidableEq, Repr

/-- A parameter in the documentation of a wrapper. -/
structure WrapperParameter where
  /-- The name. -/
  name : String
  /-- The kind of value that is passed. -/
  valueKind : String
  /-- The declared type with character set and collation. -/
  descriptor : String
  /-- The description, if the parameter is documented. -/
  description : Option String
  deriving DecidableEq, Repr

/-- The documentation of a wrapper. -/
structure WrapperDoc where
  /-- The short description. -/
  short : String
  /-- The long description. -/
  long : String
  /-- The parameters of the routine in order. -/
  parameters : List WrapperParameter
  deriving DecidableEq, Repr

/-- What is kept about a loaded routine. -/
structure RoutineRecord where
  /-- The name of the routine. -/
  name : String
  /-- Procedure or function. -/
  kind : RoutineKind
  /-- The word of its designation. -/
  designation : String
  /-- The type of the returned value, if its designation has one. -/
  returnType : Option String
  /-- The table of a bulk insert. -/
  table : Option String
  /-- The parameters in order of declaration. -/
  parameters : List RoutineParameter
  /-- The columns that the designation lists. -/
  columns : Option (List String)
  /-- The column names of the table of a bulk insert. -/
  fields : Option (List String)
  /-- The column types of the table of a bulk insert. -/
  columnTypes : Option (List String)
  /-- The modification time of the source that was loaded. -/
  timestamp : Int64
  /-- The placeholders of the source with the values they had. -/
  replace : SortedMap String
  /-- The documentation. -/
  doc : WrapperDoc
  /-- The list parameters in order of appearance. -/
  listParameters : List ListParameter
  deriving DecidableEq

end StoredRoutines
