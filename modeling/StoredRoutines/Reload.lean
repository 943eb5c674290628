import StoredRoutines.Placeholder.Table
import StoredRoutines.Record.Basic

/-!
# Reload decisions

A routine is loaded again as soon as something has changed that its text depends on.

## Main definitions

- `ReloadReason` — what has changed
- `ReloadReason.message` — its wording
- `reloadReason?` — the first reason to load a routine again
-/

namespace StoredRoutines

/-- Why a routine is loaded. -/
inductive ReloadReason where
  /-- There is no record of the routine. -/
  | firstLoad
  /-- The modification time of the source has changed. -/
  | sourceModified (recorded current : Int64)
  /-- A placeholder has another value or none. -/
  | placeholderChanged (token : String)
  /-- The database does not hold the routine. -/
  | notInCatalog
  /-- The routine was created under another SQL mode. -/
  | sqlModeChanged
  /-- The routine was created under another character set. -/
  | characterSetChanged
  /-- The routine was created under another collation. -/
  | collationChanged
  deriving DecidableEq

namespace ReloadReason

/-- The wording of a reason. -/
def message : ReloadReason → String
  | firstLoad => "first load"
  | sourceModified recorded current =>
    "source modified (" ++ toString recorded.toInt ++ " -> " ++ toString current.toInt ++ ")"
  | placeholderChanged token => "placeholder " ++ token ++ " changed"
  | notInCatalog => "routine not in database"
  | sqlModeChanged => "sql mode changed"
  | characterSetChanged => "character set changed"
  | collationChanged => "collation changed"

end ReloadReason

/-- The first placeholder of a record whose value is no longer the recorded one. -/
def changedPlaceholder? (record : RoutineRecord) (table : Placeholder.Table) : Option String :=
  (record.replace.entries.find? fun (token, value) => table.get? token ≠ some value).map (·.1)

/-- The first setting of the catalog entry that differs from the session. -/
def changedSetting? (entry : CatalogRoutine) (session : SessionSettings) : Option ReloadReason :=
  if entry.settings.sqlMode ≠ session.sqlMode then some .sqlModeChanged
  else if entry.settings.characterSet ≠ session.characterSet then some .characterSetChanged
  else if entry.settings.collation ≠ session.collation then some .collationChanged
  else none

/-- The first reason to load a routine again, `none` if its record still holds. -/
def reloadReason? (prior : Option RoutineRecord) (mtime : Int64) (table : Placeholder.Table)
    (catalog : Option CatalogRoutine) (session : SessionSettings) : Option ReloadReason :=
  match prior with
  | none => some .firstLoad
  | some record =>
    if record.timestamp ≠ mtime then some (.sourceModified record.timestamp mtime)
    else
      match changedPlaceholder? record table with
      | some token => some (.placeholderChanged token)
      | none =>
        match catalog with
        | none => some .notInCatalog
        | some entry => changedSetting? entry session

end StoredRoutines
