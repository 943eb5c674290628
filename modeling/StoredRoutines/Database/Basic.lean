import StoredRoutines.Database.Failure
import StoredRoutines.Signature
import StoredRoutines.SortedMap
import StoredRoutines.Sql.Quoting

/-!
# Databases

The operations through which routines are loaded.

## Main definitions

- `Query` — an operation on the state of a database
- `Row` — a row of a result
- `Database` — the operations, for any type of state
- `Database.fetchRow` — a query for at most one row
- `Database.throughStatements` — the operations that are plain statements, written out in SQL

## Design notes

A database is a record of functions and not a fixed state, so a statement about a load can be
made for every way in which a database may answer.
-/

namespace StoredRoutines

/-- An operation on a database whose state is of type `σ`: the state before gives an answer and
    the state after. -/
abbrev Query (σ α : Type) : Type := σ → Except DatabaseError α × σ

/-- A row of a result: columns with their values, `none` standing for `NULL`. -/
abbrev Row : Type := SortedMap (Option String)

/-- The operations of a database. All of them share one session. -/
structure Database (σ : Type) where
  /-- Runs a statement. -/
  execute : String → Query σ Unit
  /-- Runs a query for rows. -/
  fetchRows : String → Query σ (List Row)
  /-- Whether there is a permanent table of a name. -/
  tableExists : String → Query σ Bool
  /-- The columns of a table, permanent or temporary. -/
  describeTable : String → Query σ (List TableColumn)
  /-- The parameters of a routine. -/
  routineParameters : String → Query σ (List CatalogParameter)
  /-- The catalog entry of a routine. -/
  routineInfo : String → Query σ (Option CatalogRoutine)
  /-- The columns of all tables. -/
  schemaColumns : Query σ (List SchemaColumn)
  /-- Drops a routine if it is there. -/
  dropRoutine : RoutineKind → String → Query σ Unit
  /-- Drops a temporary table. -/
  dropTemporaryTable : String → Query σ Unit
  /-- Calls a procedure without arguments. -/
  callRoutine : String → Query σ Unit
  /-- Sets the SQL mode of the session. -/
  setSqlMode : String → Query σ Unit
  /-- Sets the character set and the collation of the session. -/
  setCharacterSet : String → String → Query σ Unit

namespace Database

variable {σ : Type}

/-- A query for at most one row. -/
def fetchRow (db : Database σ) (sql : String) : Query σ (Option Row) := fun s =>
  match db.fetchRows sql s with
  | (.error e, s) => (.error e, s)
  | (.ok [], s) => (.ok none, s)
  | (.ok [row], s) => (.ok (some row), s)
  | (.ok rows, s) => (.error (.manyRows rows.length), s)

/-- The statement that drops a routine. -/
def dropStatement (kind : RoutineKind) (name : String) : String :=
  "drop " ++ kind.word ++ " if exists " ++ name

/-- The statement that drops a temporary table. -/
def dropTemporaryStatement (table : String) : String :=
  "drop temporary table " ++ table

/-- The statement that calls a procedure without arguments. -/
def callStatement (name : String) : String :=
  "call " ++ name ++ "()"

/-- The statement that sets the SQL mode to a value between quotes. -/
def sqlModeStatement (sqlMode : String) : String :=
  "set sql_mode = '" ++ sqlMode ++ "'"

/-- The statement that sets character set and collation to values between quotes. -/
def characterSetStatement (characterSet collation : String) : String :=
  "set names '" ++ characterSet ++ "' collate '" ++ collation ++ "'"

/-- A database that drops, calls and sets by executing statements, with names quoted and values
    escaped. -/
def throughStatements (db : Database σ) : Database σ :=
  { db with
    dropRoutine := fun kind name => db.execute (dropStatement kind (Sql.quoteIdentifier name))
    dropTemporaryTable := fun table =>
      db.execute (dropTemporaryStatement (Sql.quoteIdentifier table))
    callRoutine := fun name => db.execute (callStatement (Sql.quoteIdentifier name))
    setSqlMode := fun sqlMode => db.execute (sqlModeStatement (Sql.escape sqlMode))
    setCharacterSet := fun characterSet collation =>
      db.execute (characterSetStatement (Sql.escape characterSet) (Sql.escape collation)) }

end Database

end StoredRoutines
