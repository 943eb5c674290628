import StoredRoutines.Config
import StoredRoutines.Discovery
import StoredRoutines.Load.Session
import StoredRoutines.Placeholder.Table
import StoredRoutines.Store

/-!
# The setting of a run

Before any routine is loaded, a run collects the values of all placeholders and finds out under
which session settings routines will be created.

## Main definitions

- `RunError` — why a run ends without a report
- `columnTable`, `constantTable` — the placeholders of columns and of constants
- `Loading.placeholderTable` — both together; a constant replaces a column
- `Loading.canonicalSession` — the session settings with the SQL mode as the database keeps it
-/

namespace StoredRoutines

/-- Why a run ends without a report. -/
inductive RunError where
  /-- The columns of the schema cannot be read. -/
  | schemaUnreadable (cause : DatabaseError)
  /-- The SQL mode cannot be set. -/
  | sqlModeNotSet (sqlMode : String) (cause : DatabaseError)
  /-- The SQL mode cannot be read back. -/
  | sqlModeUnreadable (cause : DatabaseError)
  /-- The sources cannot be looked for. -/
  | discovery (cause : DiscoveryError)
  /-- The records cannot be read or written. -/
  | store (cause : StoreError)
  deriving DecidableEq, Repr

/-- The wording of a cause, as far as the run itself words it. -/
def RunError.message : RunError → String
  | schemaUnreadable _ => "Failed to read column types of the schema"
  | sqlModeNotSet sqlMode _ => "Failed to set sql_mode '" ++ sqlMode ++ "'"
  | sqlModeUnreadable _ => "Failed to read back sql_mode"
  | discovery cause => cause.message
  | store cause => cause.message

/-- The token of the type of a column. -/
def columnToken (c : SchemaColumn) : String :=
  "@" ++ c.table ++ "." ++ c.column ++ "%TYPE@"

/-- The type of a column, with the character set of a character column. -/
def columnValue (c : SchemaColumn) : String :=
  match c.characterSet with
  | some charset => c.columnType ++ " character set " ++ charset
  | none => c.columnType

/-- The placeholders of the types of columns. -/
def columnTable (columns : List SchemaColumn) : Placeholder.Table :=
  .ofList (columns.map fun c => (columnToken c, columnValue c))

/-- The token of a constant. -/
def constantToken (name : String) : String :=
  "@" ++ name ++ "@"

/-- The placeholders of constants. -/
def constantTable (constants : SortedMap String) : Placeholder.Table :=
  .ofList (constants.entries.map fun e => (constantToken e.1, e.2))

namespace Loading

variable {σ : Type}

/-- The values of all placeholders. -/
def placeholderTable (db : Database σ) (config : Config) :
    Loading σ RunError Placeholder.Table := do
  let columns ←
    if config.loader.columnTypePlaceholders then ask .schemaUnreadable db.schemaColumns
    else pure []
  return (columnTable columns).extend (constantTable config.constants)

/-- The query for the SQL mode of the session. -/
def sqlModeQuery : String := "select @@sql_mode as sql_mode"

/-- The SQL mode in the answer to the query for it. -/
def sqlModeOfRow? (row : Option Row) : Option String :=
  (row.bind fun r => r.get? "sql_mode").join

/-- The session settings with the SQL mode in the words of the database. The catalog keeps these
    words, so that settings compared with it have to use them too. -/
def canonicalSession (db : Database σ) (configured : SessionSettings) :
    Loading σ RunError SessionSettings := do
  ask (.sqlModeNotSet configured.sqlMode) (db.setSqlMode configured.sqlMode)
  let row ← ask .sqlModeUnreadable (db.fetchRow sqlModeQuery)
  return { configured with sqlMode := (sqlModeOfRow? row).getD configured.sqlMode }

end Loading

end StoredRoutines
