import StoredRoutines.Database.Basic
import StoredRoutines.Text.Split

/-!
# The in-memory database

A database that consists of a value. It behaves like a single session: a statement that creates
a routine registers it together with the current session settings. Parameters, tables and the
temporary tables that a call creates are given in advance.

## Main definitions

- `StoredRoutine` — a routine with the settings it was created under
- `InMemory` — the state
- `InMemory.statement` — a statement is recorded, then refused or carried out as a whole
- `inMemory` — the operations

## Design notes

Every operation that is recorded goes through `InMemory.statement`. An operation that fails
therefore leaves nothing behind but its entry in the list of statements.
-/

namespace StoredRoutines

/-- A routine of the in-memory database. -/
structure StoredRoutine where
  /-- Procedure or function. -/
  kind : RoutineKind
  /-- The statement that created it. -/
  source : String
  /-- The settings of the session that created it. -/
  settings : SessionSettings
  deriving DecidableEq, Repr

/-- The state of the in-memory database. -/
structure InMemory where
  /-- The statements so far, refused ones included. -/
  statements : List String
  /-- The routines called so far. -/
  calls : List String
  /-- The settings of the session. -/
  settings : SessionSettings
  /-- The routines. -/
  routines : SortedMap StoredRoutine
  /-- The parameters that the catalog lists for a routine once it is there. -/
  parameters : SortedMap (List CatalogParameter)
  /-- The permanent tables. -/
  tables : SortedMap (List TableColumn)
  /-- The temporary tables of the session. -/
  temporaryTables : SortedMap (List TableColumn)
  /-- The temporary table that calling a routine creates. -/
  temporaryOnCall : SortedMap (String × List TableColumn)
  /-- The columns of all tables. -/
  schemaColumns : List SchemaColumn
  /-- The mode that is set in place of any other, the way a server spells out a mode. -/
  canonicalSqlMode : Option String
  /-- Statements with one of these fragments are refused. -/
  failing : List String
  deriving DecidableEq

namespace InMemory

/-- A database without routines and tables. -/
def empty : InMemory where
  statements := []
  calls := []
  settings := ⟨"", "", ""⟩
  routines := SortedMap.empty
  parameters := SortedMap.empty
  tables := SortedMap.empty
  temporaryTables := SortedMap.empty
  temporaryOnCall := SortedMap.empty
  schemaColumns := []
  canonicalSqlMode := none
  failing := []

/-- The reason for which a statement is refused, if it is. -/
def rejection? (s : InMemory) (sql : String) : Option DatabaseError :=
  (s.failing.find? fun fragment => Text.hasSubtext fragment.toList sql.toList).map fun fragment =>
    .rejected fragment sql

/-- A statement with the change it makes and the answer it gives. It is recorded first; if it is
    refused or fails, nothing is changed. -/
def statement {α : Type} (sql : String)
    (act : InMemory → Except DatabaseError (α × InMemory)) : Query InMemory α := fun s =>
  let recorded := { s with statements := s.statements ++ [sql] }
  match recorded.rejection? sql with
  | some e => (.error e, recorded)
  | none =>
    match act recorded with
    | .ok (a, s) => (.ok a, s)
    | .error e => (.error e, recorded)

/-- A question to the state that is not recorded. -/
def query {α : Type} (f : InMemory → α) : Query InMemory α := fun s => (.ok (f s), s)

/-- Registers the routine that a statement creates, if it creates one. -/
def create (sql : String) (s : InMemory) : Except DatabaseError (Unit × InMemory) :=
  match Signature.find? sql with
  | none => .ok ((), s)
  | some signature =>
    if s.routines.contains signature.name then
      .error (.routineExists signature.kind signature.name)
    else
      .ok ((), { s with
        routines := s.routines.insert signature.name ⟨signature.kind, sql, s.settings⟩ })

/-- The rows of a query: one with the SQL mode if it is asked for, and none otherwise. -/
def rows (sql : String) (s : InMemory) : List Row :=
  if Text.hasSubtext "@@sql_mode".toList sql.toList then
    [SortedMap.ofList [("sql_mode", some s.settings.sqlMode)]]
  else []

/-- The columns of a table. A temporary table hides a permanent one of its name. -/
def describe (table : String) (s : InMemory) :
    Except DatabaseError (List TableColumn × InMemory) :=
  match (s.temporaryTables.get? table).or (s.tables.get? table) with
  | some columns => .ok (columns, s)
  | none => .error (.noSuchTable table)

/-- The parameters that are listed for a routine. -/
def parametersOf (s : InMemory) (name : String) : List CatalogParameter :=
  (s.parameters.get? name).getD []

/-- The catalog entry of a routine. -/
def catalogEntry (name : String) (s : InMemory) : Option CatalogRoutine :=
  (s.routines.get? name).map fun r => ⟨name, r.kind, r.settings, s.parametersOf name⟩

/-- Removes a routine of a kind; a routine of the other kind stays. -/
def drop (kind : RoutineKind) (name : String) (s : InMemory) : InMemory :=
  match s.routines.get? name with
  | some r => if r.kind = kind then { s with routines := s.routines.erase name } else s
  | none => s

/-- Removes a temporary table. -/
def dropTemporary (table : String) (s : InMemory) : Except DatabaseError (Unit × InMemory) :=
  if s.temporaryTables.contains table then
    .ok ((), { s with temporaryTables := s.temporaryTables.erase table })
  else .error (.unknownTable table)

/-- Calls a routine, which may create a temporary table. -/
def call (name : String) (s : InMemory) : Except DatabaseError (Unit × InMemory) :=
  if s.routines.contains name then
    let called := { s with calls := s.calls ++ [name] }
    match s.temporaryOnCall.get? name with
    | some (table, columns) =>
      .ok ((), { called with temporaryTables := s.temporaryTables.insert table columns })
    | none => .ok ((), called)
  else .error (.noSuchProcedure name)

/-- Sets the SQL mode, or the canonical mode in its place. -/
def withSqlMode (sqlMode : String) (s : InMemory) : InMemory :=
  { s with settings := { s.settings with sqlMode := s.canonicalSqlMode.getD sqlMode } }

/-- Sets character set and collation. -/
def withCharacterSet (characterSet collation : String) (s : InMemory) : InMemory :=
  { s with settings := { s.settings with characterSet, collation } }

end InMemory

/-- The operations of the in-memory database. -/
def inMemory : Database InMemory where
  execute := fun sql => InMemory.statement sql (InMemory.create sql)
  fetchRows := fun sql => InMemory.statement sql fun s => .ok (InMemory.rows sql s, s)
  tableExists := fun table => InMemory.query fun s => s.tables.contains table
  describeTable := fun table =>
    InMemory.statement ("show columns from " ++ table) (InMemory.describe table)
  routineParameters := fun name => InMemory.query fun s =>
    if s.routines.contains name then s.parametersOf name else []
  routineInfo := fun name => InMemory.query (InMemory.catalogEntry name)
  schemaColumns := InMemory.query fun s => s.schemaColumns
  dropRoutine := fun kind name =>
    InMemory.statement (Database.dropStatement kind name) fun s => .ok ((), s.drop kind name)
  dropTemporaryTable := fun table =>
    InMemory.statement (Database.dropTemporaryStatement table) (InMemory.dropTemporary table)
  callRoutine := fun name =>
    InMemory.statement (Database.callStatement name) (InMemory.call name)
  setSqlMode := fun sqlMode =>
    InMemory.statement (Database.sqlModeStatement sqlMode) fun s =>
      .ok ((), s.withSqlMode sqlMode)
  setCharacterSet := fun characterSet collation =>
    InMemory.statement (Database.characterSetStatement characterSet collation) fun s =>
      .ok ((), s.withCharacterSet characterSet collation)

end StoredRoutines
