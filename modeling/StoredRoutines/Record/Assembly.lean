import StoredRoutines.DocBlock
import StoredRoutines.Load.Columns
import StoredRoutines.Placeholder.Substitution
import StoredRoutines.Record.Basic

/-!
# Assembling a record

The record of a routine is put together from what its source declares and what the catalog
reports.

## Main definitions

- `valueKind` — the kind of value that stands for a data type
- `Findings` — everything that goes into a record
- `Findings.record` — the record
-/

namespace StoredRoutines

/-- The data types that hold whole numbers. -/
def integerTypes : List String :=
  ["tinyint", "smallint", "mediumint", "int", "integer", "bigint", "year", "bit"]

/-- The data types that hold other numbers. -/
def numberTypes : List String :=
  ["decimal", "numeric", "float", "double", "real"]

/-- The data types that hold texts, bytes, dates and choices. -/
def textTypes : List String :=
  ["char", "varchar", "tinytext", "text", "mediumtext", "longtext", "binary", "varbinary",
    "tinyblob", "blob", "mediumblob", "longblob", "date", "datetime", "timestamp", "time", "enum",
    "set", "json"]

/-- The kind of value that stands for a data type, whatever the case of its ASCII letters. -/
def valueKind (dataType : String) : String :=
  let lower := String.ofList (dataType.toList.map Char.toLower)
  if integerTypes.contains lower then "int"
  else if numberTypes.contains lower then "float"
  else if textTypes.contains lower then "string"
  else "mixed"

/-- Everything that goes into a record. -/
structure Findings where
  /-- The kind and the name of the routine. -/
  signature : Signature
  /-- The directives of the source. -/
  directives : Directives
  /-- The parameters of the routine. -/
  parameters : List RoutineParameter
  /-- The table of a bulk insert. -/
  shape : Option TableShape
  /-- The doc block of the source. -/
  doc : DocBlock
  /-- The modification time of the source. -/
  timestamp : Int64
  /-- The placeholders of the source with their values. -/
  replace : SortedMap String

namespace Findings

/-- The documentation of a parameter in a wrapper. -/
def wrapperParameter (doc : DocBlock) (p : RoutineParameter) : WrapperParameter :=
  ⟨p.name, valueKind p.dataType, p.descriptor, doc.description? p.name⟩

/-- The names of the location constants, which are not recorded. -/
def locationKeys : List String :=
  [Placeholder.fileKey, Placeholder.routineKey, Placeholder.dirKey, Placeholder.lineKey]

/-- The record of a routine. -/
def record (f : Findings) : RoutineRecord where
  name := f.signature.name
  kind := f.signature.kind
  designation := f.directives.designation.kind
  returnType := f.directives.returnType
  table := f.directives.designation.table?
  parameters := f.parameters
  columns := f.directives.designation.columns?
  fields := f.shape.map (·.fields)
  columnTypes := f.shape.map (·.columnTypes)
  timestamp := f.timestamp
  replace := f.replace.filterKeys fun key => !locationKeys.contains key
  doc := ⟨f.doc.short, f.doc.long, f.parameters.map (wrapperParameter f.doc)⟩
  listParameters := f.directives.listParameters

end Findings

end StoredRoutines
