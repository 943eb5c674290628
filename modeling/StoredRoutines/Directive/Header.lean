import StoredRoutines.Directive.Line
import StoredRoutines.Notice

/-!
# Headers

The directives of a routine are read from its header, the lines above `begin`.

## Main definitions

- `header?` — the lines above the first line that is `begin`
- `Designation.ofHeader` — the type directive nearest to `begin`
- `ReturnType.ofHeader` — the return directive nearest to `begin`
- `ReturnType.check` — the allowed return types
- `ListParameter.ofHeader` — the parameter directives from top to bottom
- `Directives.ofLines` — all of them
- `Directives.notices` — the remark on a return type that had to be assumed
-/

namespace StoredRoutines

/-- The lines above the first line that is exactly `begin`. -/
def header? : List String → Option (List String)
  | [] => none
  | line :: rest => if line = "begin" then some [] else (header? rest).map (line :: ·)

/-- The names in a list separated by commas, without the white space around them. -/
def splitColumns (list : String) : List String :=
  (Text.splitOn ',' list.toList).map fun c => String.ofList (Text.trim c)

namespace Designation

/-- The designation of a kind with arguments as they are written. Only a bulk insert looks at
    white space after its arguments. -/
def ofArguments (kind : String) (raw : Option String) : Except LoadError Designation :=
  let arguments := String.ofList (Text.trim (raw.getD "").toList)
  if kind = "bulk_insert" then
    match DirectiveLine.bulkInsertArguments? (raw.getD "") with
    | some (table, columns) => .ok (bulkInsert table (splitColumns columns))
    | none => .error (.malformedBulkInsert (raw.getD ""))
  else if kind = "rows_with_key" then .ok (rowsWithKey (splitColumns arguments))
  else if kind = "rows_with_index" then .ok (rowsWithIndex (splitColumns arguments))
  else if arguments.isEmpty then .ok (plain kind)
  else .error (.unexpectedArguments kind arguments)

/-- The designation of the type directive nearest to the end of a header. -/
def ofHeader (header : List String) : Except LoadError Designation :=
  match header.reverse.findSome? DirectiveLine.designation? with
  | some (kind, raw) => ofArguments kind raw
  | none => .error .missingDesignationType

end Designation

namespace ReturnType

/-- The return type assumed where none is declared. -/
def assumed : String := "mixed"

/-- The words that a return type may be combined from. -/
def scalars : List String := ["string", "int", "float", "double", "null"]

/-- The type of the return directive nearest to the end of a header. -/
def ofHeader (header : List String) : Option String :=
  header.reverse.findSome? DirectiveLine.returnType?

/-- Whether a return type is `mixed`, `bool` or a combination of the scalars. -/
def isAllowed (returnType : String) : Bool :=
  returnType == "mixed" || returnType == "bool" ||
    (Text.splitOn '|' returnType.toList).all fun part => scalars.contains (String.ofList part)

/-- Refuses a return type that is not allowed. -/
def check (returnType : String) : Except LoadError Unit :=
  if isAllowed returnType then .ok () else .error (.invalidReturnType returnType)

end ReturnType

namespace ListParameter

/-- The parameter directives of lines numbered from `number`, given the names that directives
    above them have used. -/
def ofLines (number : Nat) (used : List String) :
    List String → Except LoadError (List ListParameter)
  | [] => .ok []
  | line :: rest =>
    if DirectiveLine.isListParameter line then
      match DirectiveLine.listParameter? line with
      | none =>
        .error (.malformedListParameter number (String.ofList (Text.trim line.toList)))
      | some p =>
        if used.contains p.name then .error (.duplicateListParameter p.name)
        else (ofLines (number + 1) (p.name :: used) rest).map (p :: ·)
    else ofLines (number + 1) used rest

/-- The parameter directives of a header. -/
def ofHeader (header : List String) : Except LoadError (List ListParameter) :=
  ofLines 1 [] header

end ListParameter

namespace Directives

/-- The return type that goes with a designation. -/
def returnTypeFor (header : List String) (d : Designation) : Option String :=
  if d.returnsValue then some ((ReturnType.ofHeader header).getD ReturnType.assumed) else none

/-- The directives of a source given by its lines. -/
def ofLines (lines : List String) : Except LoadError Directives :=
  match header? lines with
  | none => .error .missingDesignationType
  | some header => do
    let designation ← Designation.ofHeader header
    let listParameters ← ListParameter.ofHeader header
    return ⟨designation, returnTypeFor header designation, listParameters⟩

/-- The remark that a return type had to be assumed. -/
def assumedReturnType : Notice :=
  .warning ("Unable to find the return type of the stored routine, assuming '" ++
    ReturnType.assumed ++ "'")

/-- What is remarked while the directives of a source are read. -/
def notices (lines : List String) : List Notice :=
  match header? lines with
  | none => []
  | some header =>
    match Designation.ofHeader header with
    | .error _ => []
    | .ok d =>
      if d.returnsValue && (ReturnType.ofHeader header).isNone then [assumedReturnType] else []

end Directives

end StoredRoutines
