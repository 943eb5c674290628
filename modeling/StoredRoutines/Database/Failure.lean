import StoredRoutines.Catalog

/-!
# Failures of a database

Why a database refuses an operation.

## Main definitions

- `DatabaseError` — the causes
- `DatabaseError.message` — their wording
-/

namespace StoredRoutines

/-- Why a database refused an operation. -/
inductive DatabaseError where
  /-- A statement matched a fragment that the database is told to reject. -/
  | rejected (fragment statement : String)
  /-- A routine of the name is there already. -/
  | routineExists (kind : RoutineKind) (name : String)
  /-- No procedure of the name can be called. -/
  | noSuchProcedure (name : String)
  /-- No table of the name can be described. -/
  | noSuchTable (name : String)
  /-- No temporary table of the name can be dropped. -/
  | unknownTable (name : String)
  /-- A query for one row found more. -/
  | manyRows (count : Nat)
  /-- The server's own words. -/
  | reported (text : String)
  deriving DecidableEq, Repr

namespace DatabaseError

/-- The wording of a cause. -/
def message : DatabaseError → String
  | rejected fragment statement =>
    "Statement rejected by database (matched '" ++ fragment ++ "'): " ++ statement
  | routineExists kind name => kind.heading ++ " " ++ name ++ " already exists"
  | noSuchProcedure name => "PROCEDURE " ++ name ++ " does not exist"
  | noSuchTable name => "Table '" ++ name ++ "' doesn't exist"
  | unknownTable name => "Unknown table '" ++ name ++ "'"
  | manyRows count => "Expected at most one row, got " ++ toString count
  | reported text => text

end DatabaseError

end StoredRoutines
