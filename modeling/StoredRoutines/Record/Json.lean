import StoredRoutines.Json.Printer
import StoredRoutines.Json.Reader
import StoredRoutines.Record.Basic

/-!
# Records as JSON

The records of all routines make up a JSON object with the single member `routines`.

## Main definitions

- `Json.Fields` — the values given for the fields of a structure
- `Json.fields?` — reads them from an object, or from a list in the order of the fields
- `RoutineRecord.toJson`, `RoutineRecord.ofJson?` — a record
- `Records.print`, `Records.read?` — a map of records as a text

## Design notes

Objects may have members that are not asked for, but none of the fields twice. A list may be
shorter than the fields only where the missing fields need not be given at all; that an absent
text may be left out holds for objects alone, which is why `Fields` knows where it comes from.
-/

namespace StoredRoutines

namespace Json

/-! ### Reading -/

/-- The values given for the fields of a structure. -/
structure Fields where
  /-- Whether they were given by name. -/
  named : Bool
  /-- The values in the order of the fields, `none` where a field is missing. -/
  values : List (Option Json)

/-- The texts of the names of an object; a name without a text spoils them. -/
def names? (members : List (Option String × Json)) : Option (List (String × Json)) :=
  members.mapM fun m => m.1.map fun name => (name, m.2)

/-- The value of a field in an object, refused if it is given more than once. -/
def field? (members : List (String × Json)) (name : String) : Option (Option Json) :=
  match members.filter fun m => m.1 == name with
  | [] => some none
  | [m] => some (some m.2)
  | _ => none

/-- The values given for fields with the given names. -/
def fields? (names : List String) : Json → Option Fields
  | .object members => do
    let members ← names? members
    let values ← names.mapM (field? members)
    some ⟨true, values⟩
  | .array items =>
    if items.length ≤ names.length then
      some ⟨false, items.map some ++ List.replicate (names.length - items.length) none⟩
    else none
  | _ => none

namespace Fields

/-- The value of the field at a position. -/
def at? (f : Fields) (i : Nat) : Option Json :=
  (f.values[i]?).join

/-- A field that has to be given. -/
def required {α : Type} (f : Fields) (i : Nat) (read : Json → Option α) : Option α :=
  (f.at? i).bind read

/-- A field that may be null, and that an object may leave out. -/
def optional {α : Type} (f : Fields) (i : Nat) (read : Json → Option α) : Option (Option α) :=
  match f.at? i with
  | none => if f.named then some none else none
  | some .null => some none
  | some v => (read v).map some

/-- A field with a value of its own if it is left out. -/
def withDefault {α : Type} (f : Fields) (i : Nat) (default : α) (read : Json → Option α) :
    Option α :=
  match f.at? i with
  | none => some default
  | some v => read v

end Fields

/-- The text of a string. -/
def text? : Json → Option String
  | .string text => text
  | _ => none

/-- The character of a string of one character. -/
def char? (v : Json) : Option Char := do
  match (← v.text?).toList with
  | [c] => some c
  | _ => none

/-- The values of a list. -/
def list? {α : Type} (read : Json → Option α) : Json → Option (List α)
  | .array items => items.mapM read
  | _ => none

/-- The values of an object by their names; the last one of a name counts. -/
def map? {α : Type} (read : Json → Option α) : Json → Option (SortedMap α)
  | .object members => do
    let entries ← (← names? members).mapM fun m => (read m.2).map fun v => (m.1, v)
    some (SortedMap.ofList entries)
  | _ => none

/-- A value or null. -/
def nullable? {α : Type} (read : Json → Option α) : Json → Option (Option α)
  | .null => some none
  | v => (read v).map some

/-! ### Writing -/

/-- A value, or null where there is none. -/
def ofOption {α : Type} (write : α → Json) : Option α → Json
  | some a => write a
  | none => .null

/-- A list of values. -/
def ofList {α : Type} (write : α → Json) (l : List α) : Json :=
  .array (l.map write)

/-- A map as an object with its names in order. -/
def ofMap {α : Type} (write : α → Json) (m : SortedMap α) : Json :=
  .object (m.entries.map fun e => (some e.1, write e.2))

end Json

/-- The kind of a routine as a word. -/
def RoutineKind.toJson (kind : RoutineKind) : Json :=
  .text kind.word

/-- The kind that a lower-case word names. -/
def RoutineKind.ofWord? (word : String) : Option RoutineKind :=
  if word = procedure.word then some procedure
  else if word = function.word then some function
  else none

/-- The kind given as a word, or as the only name of an object with the value null. -/
def RoutineKind.ofJson? : Json → Option RoutineKind
  | .string (some word) => ofWord? word
  | .object [(some word, .null)] => ofWord? word
  | _ => none

namespace ListParameter

/-- The names of the fields. -/
def fieldNames : List String := ["name", "data_type", "delimiter", "enclosure", "escape"]

/-- A list parameter as an object. -/
def toJson (p : ListParameter) : Json :=
  .record
    [("name", .text p.name), ("data_type", .text p.listType),
      ("delimiter", .text (String.singleton p.delimiter)),
      ("enclosure", .text (String.singleton p.enclosure)),
      ("escape", .text (String.singleton p.escape))]

/-- The list parameter that a value describes. -/
def ofJson? (v : Json) : Option ListParameter := do
  let f ← Json.fields? fieldNames v
  some
    { name := ← f.required 0 Json.text?
      listType := ← f.required 1 Json.text?
      delimiter := ← f.required 2 Json.char?
      enclosure := ← f.required 3 Json.char?
      escape := ← f.required 4 Json.char? }

end ListParameter

namespace RoutineParameter

/-- The names of the fields. -/
def fieldNames : List String :=
  ["parameter_name", "data_type", "dtd_identifier", "character_set_name", "collation_name",
    "data_type_descriptor", "format"]

/-- A parameter as an object; the format is left out where there is none. -/
def toJson (p : RoutineParameter) : Json :=
  .record
    ([("parameter_name", .text p.name), ("data_type", .text p.dataType),
      ("dtd_identifier", .text p.declaredType),
      ("character_set_name", Json.ofOption .text p.characterSet),
      ("collation_name", Json.ofOption .text p.collation),
      ("data_type_descriptor", .text p.descriptor)] ++
      p.format.toList.map fun f => ("format", f.toJson))

/-- The parameter that a value describes. -/
def ofJson? (v : Json) : Option RoutineParameter := do
  let f ← Json.fields? fieldNames v
  some
    { name := ← f.required 0 Json.text?
      dataType := ← f.required 1 Json.text?
      declaredType := ← f.required 2 Json.text?
      characterSet := ← f.optional 3 Json.text?
      collation := ← f.optional 4 Json.text?
      descriptor := ← f.required 5 Json.text?
      format := ← f.withDefault 6 none (Json.nullable? ListParameter.ofJson?) }

end RoutineParameter

namespace WrapperParameter

/-- The names of the fields. -/
def fieldNames : List String :=
  ["parameter_name", "value_kind", "data_type_descriptor", "description"]

/-- A parameter as an object. -/
def toJson (p : WrapperParameter) : Json :=
  .record
    [("parameter_name", .text p.name), ("value_kind", .text p.valueKind),
      ("data_type_descriptor", .text p.descriptor),
      ("description", Json.ofOption .text p.description)]

/-- The parameter that a value describes. -/
def ofJson? (v : Json) : Option WrapperParameter := do
  let f ← Json.fields? fieldNames v
  some
    { name := ← f.required 0 Json.text?
      valueKind := ← f.required 1 Json.text?
      descriptor := ← f.required 2 Json.text?
      description := ← f.optional 3 Json.text? }

end WrapperParameter

namespace WrapperDoc

/-- The names of the fields. -/
def fieldNames : List String := ["short_description", "long_description", "parameters"]

/-- The documentation as an object. -/
def toJson (d : WrapperDoc) : Json :=
  .record
    [("short_description", .text d.short), ("long_description", .text d.long),
      ("parameters", Json.ofList WrapperParameter.toJson d.parameters)]

/-- The documentation that a value describes. -/
def ofJson? (v : Json) : Option WrapperDoc := do
  let f ← Json.fields? fieldNames v
  some
    { short := ← f.required 0 Json.text?
      long := ← f.required 1 Json.text?
      parameters := ← f.required 2 (Json.list? WrapperParameter.ofJson?) }

end WrapperDoc

namespace RoutineRecord

/-- The names of the fields. -/
def fieldNames : List String :=
  ["routine_name", "routine_kind", "designation", "return", "table_name", "parameters", "columns",
    "fields", "column_types", "timestamp", "replace", "docblock", "extended_params"]

/-- A list of texts. -/
def textsToJson (l : List String) : Json :=
  Json.ofList .text l

/-- A record as an object. -/
def toJson (r : RoutineRecord) : Json :=
  .record
    [("routine_name", .text r.name), ("routine_kind", r.kind.toJson),
      ("designation", .text r.designation), ("return", Json.ofOption .text r.returnType),
      ("table_name", Json.ofOption .text r.table),
      ("parameters", Json.ofList RoutineParameter.toJson r.parameters),
      ("columns", Json.ofOption textsToJson r.columns),
      ("fields", Json.ofOption textsToJson r.fields),
      ("column_types", Json.ofOption textsToJson r.columnTypes),
      ("timestamp", .int r.timestamp.toInt), ("replace", Json.ofMap .text r.replace),
      ("docblock", r.doc.toJson),
      ("extended_params", Json.ofList ListParameter.toJson r.listParameters)]

/-- The record that a value describes. -/
def ofJson? (v : Json) : Option RoutineRecord := do
  let f ← Json.fields? fieldNames v
  some
    { name := ← f.required 0 Json.text?
      kind := ← f.required 1 RoutineKind.ofJson?
      designation := ← f.required 2 Json.text?
      returnType := ← f.optional 3 Json.text?
      table := ← f.optional 4 Json.text?
      parameters := ← f.required 5 (Json.list? RoutineParameter.ofJson?)
      columns := ← f.optional 6 (Json.list? Json.text?)
      fields := ← f.optional 7 (Json.list? Json.text?)
      columnTypes := ← f.optional 8 (Json.list? Json.text?)
      timestamp := ← f.required 9 Json.int64?
      replace := ← f.required 10 (Json.map? Json.text?)
      doc := ← f.required 11 WrapperDoc.ofJson?
      listParameters := ← f.withDefault 12 [] (Json.list? ListParameter.ofJson?) }

end RoutineRecord

namespace Records

/-- The name of the only field. -/
def fieldNames : List String := ["routines"]

/-- A map of records as a text. -/
def print (records : SortedMap RoutineRecord) : String :=
  Json.print (.record [("routines", Json.ofMap RoutineRecord.toJson records)])

/-- The map of records that a text describes. -/
def read? (text : String) : Option (SortedMap RoutineRecord) := do
  let f ← Json.fields? fieldNames (← Json.read? text)
  f.withDefault 0 SortedMap.empty (Json.map? RoutineRecord.ofJson?)

end Records

end StoredRoutines
