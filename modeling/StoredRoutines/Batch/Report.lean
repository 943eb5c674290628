/-!
# Reports

What became of the routines of a run.

## Main definitions

- `Report` — the routines by outcome
- `Report.summary` — the report for the user
-/

namespace StoredRoutines

/-- The routines of a run by outcome. -/
structure Report where
  /-- The routines that were loaded. -/
  loaded : List String
  /-- The routines that did not have to be loaded. -/
  unchanged : List String
  /-- The routines that could not be loaded, with the reason. -/
  failed : List (String × String)
  /-- The routines whose record was removed because their source is gone. -/
  removed : List String
  deriving DecidableEq, Repr

namespace Report

/-- The report of a run without routines. -/
def empty : Report := ⟨[], [], [], []⟩

/-- Whether some routine could not be loaded. -/
def hasFailures (r : Report) : Bool :=
  !r.failed.isEmpty

/-- The lines of the report. -/
def lines (r : Report) : List String :=
  ["load", "  loaded: " ++ toString r.loaded.length,
    "  unchanged: " ++ toString r.unchanged.length] ++
  (if r.removed.isEmpty then [] else ["  removed: " ++ toString r.removed.length]) ++
  ["  failed: " ++ toString r.failed.length] ++
  r.failed.map (fun f => "    " ++ f.1 ++ ": " ++ f.2) ++
  [if r.hasFailures then "error" else "ok"]

/-- The report for the user. -/
def summary (r : Report) : String :=
  String.join (r.lines.map (· ++ "\n"))

end Report

end StoredRoutines
