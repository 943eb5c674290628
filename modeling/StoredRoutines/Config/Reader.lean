import StoredRoutines.Config
import StoredRoutines.FileTree
import StoredRoutines.Toml.Reader

/-!
# Reading a configuration

Settings are read from a TOML document with the tables `database`, `loader`, `placeholders` and
`logging`.

## Main definitions

- `Toml.Members` — the values given for the fields of a structure
- `Config.ofToml?` — the settings of a document
- `Config.load` — the settings of a file, which have to pass the check
-/

namespace StoredRoutines

namespace Toml

/-- The values given for the fields of a structure, `none` where a field is missing. -/
abbrev Members : Type := List (Option Toml)

/-- The name of the only member of a date or time that is read as a table. -/
def momentKey : String := "$__toml_private_datetime"

/-- The members of a table. A date or time counts as a table that holds its text. -/
def table? : Toml → Option (List (String × Toml))
  | .table ms => some ms
  | .moment written => some [(momentKey, .string written)]
  | _ => none

/-- The values given for fields with the given names, in a table, or in a list in the order of
    the fields. Other members and further values do not matter. -/
def members (names : List String) : Toml → Option Members
  | .array vs =>
    some ((vs.map some ++ List.replicate names.length none).take names.length)
  | v => v.table?.map fun ms => names.map fun name => ms.lookup name

/-- A field that has to be given. -/
def required {α : Type} (m : Members) (i : Nat) (read : Toml → Option α) : Option α :=
  (m[i]?.join).bind read

/-- A field with a value of its own if it is missing. -/
def withDefault {α : Type} (m : Members) (i : Nat) (default : α) (read : Toml → Option α) :
    Option α :=
  match m[i]?.join with
  | some v => read v
  | none => some default

/-- A text. -/
def text? : Toml → Option String
  | .string text => some text
  | _ => none

/-- A path. -/
def path? (v : Toml) : Option Path :=
  v.text?.map Path.mk

/-- A truth value. -/
def boolean? : Toml → Option Bool
  | .boolean b => some b
  | _ => none

/-- A list of texts. -/
def texts? : Toml → Option (List String)
  | .array vs => vs.mapM text?
  | _ => none

/-- A table of texts. -/
def textMap? (v : Toml) : Option (SortedMap String) := do
  let entries ← (← v.table?).mapM fun m => (text? m.2).map fun text => (m.1, text)
  some (SortedMap.ofList entries)

end Toml

namespace LoaderConfig

/-- The names of the fields. -/
def fieldNames : List String :=
  ["source_dir", "include_globs", "exclude_globs", "metadata_path", "sql_mode", "character_set",
    "collation", "column_type_placeholders"]

/-- The settings of the loader that a value describes. -/
def ofToml? (v : Toml) : Option LoaderConfig := do
  let m ← Toml.members fieldNames v
  some
    { sourceDirectory := ← Toml.required m 0 Toml.path?
      includePatterns := ← Toml.withDefault m 1 Config.defaultIncludePatterns Toml.texts?
      excludePatterns := ← Toml.withDefault m 2 [] Toml.texts?
      recordsPath := ← Toml.required m 3 Toml.path?
      session :=
        { sqlMode := ← Toml.required m 4 Toml.text?
          characterSet := ← Toml.required m 5 Toml.text?
          collation := ← Toml.required m 6 Toml.text? }
      columnTypePlaceholders := ← Toml.withDefault m 7 true Toml.boolean? }

end LoaderConfig

namespace Config

/-- The names of the fields. -/
def fieldNames : List String := ["database", "loader", "placeholders", "logging"]

/-- The address of the database that a value describes. -/
def urlOfToml? (v : Toml) : Option String := do
  let m ← Toml.members ["url"] v
  Toml.required m 0 Toml.text?

/-- The least severity that a value describes. -/
def levelOfToml? (v : Toml) : Option String := do
  let m ← Toml.members ["level"] v
  Toml.withDefault m 0 defaultLogLevel Toml.text?

/-- The settings of a document. -/
def ofToml? (document : List (String × Toml)) : Option Config := do
  let m ← Toml.members fieldNames (.table document)
  some
    { databaseUrl := ← Toml.required m 0 urlOfToml?
      loader := ← Toml.required m 1 LoaderConfig.ofToml?
      constants := ← Toml.withDefault m 2 SortedMap.empty Toml.textMap?
      logLevel := ← Toml.withDefault m 3 defaultLogLevel levelOfToml? }

/-- The settings that a text holds. -/
def parse (text : String) : Except ConfigError Config :=
  match (Toml.read? text).bind ofToml? with
  | none => .error .malformed
  | some c => c.check.map fun _ => c

/-- The settings that a file holds. -/
def load (files : FileTree) (path : Path) : Except ConfigError Config :=
  match files.readText? path with
  | none => .error (.unreadable path)
  | some text => parse text

end Config

end StoredRoutines
