import StoredRoutines.Directive.Basic
import StoredRoutines.Load.Session

/-!
# The columns of a bulk insert

A routine that inserts rows in bulk is given the columns of its table. A table that is not
permanent is a temporary one that the routine itself creates when it is called.

## Main definitions

- `TableShape` — the names and the types of the columns of a table
- `describeCreated` — the columns of a temporary table, which is created and dropped again
- `resolveColumns` — the shape of the table of a bulk insert
-/

namespace StoredRoutines

/-- The names and the bare types of the columns of a table, in order. -/
structure TableShape where
  /-- The names. -/
  fields : List String
  /-- The bare types. -/
  columnTypes : List String
  deriving DecidableEq, Repr

namespace TableShape

/-- The shape that a list of columns has. -/
def ofColumns (columns : List TableColumn) : TableShape where
  fields := columns.map (·.field)
  columnTypes := columns.map fun c => baseType c.columnType

end TableShape

namespace Loading

variable {σ : Type}

/-- The columns of the temporary table that calling a routine creates. The table is dropped
    again, whether it could be described or not. -/
def describeCreated (db : Database σ) (routine table : String) :
    Loading σ LoadError (Except DatabaseError (List TableColumn)) := do
  ask (.loadFailed routine) (db.callRoutine routine)
  let described ← attempt (db.describeTable table)
  let dropped ← attempt (db.dropTemporaryTable table)
  match described, dropped with
  | .ok _, .error e => throw (.loadFailed routine e)
  | .error _, .error e =>
    notify [.warning ("Unable to drop temporary table: " ++ e.message)]
    return described
  | _, .ok () => return described

/-- The shape of the table of a bulk insert, which must have as many columns as the directive
    lists. Other designations have no table. -/
def resolveColumns (db : Database σ) (routine : String) :
    Designation → Loading σ LoadError (Option TableShape)
  | .bulkInsert table listed => do
    let permanent ← ask (.loadFailed routine) (db.tableExists table)
    let described ←
      if permanent then attempt (db.describeTable table) else describeCreated db routine table
    match described with
    | .error e => throw (.loadFailed routine e)
    | .ok columns =>
      if listed.length = columns.length then return some (TableShape.ofColumns columns)
      else throw (.columnCountMismatch table listed.length columns.length)
  | _ => return none

end Loading

end StoredRoutines
