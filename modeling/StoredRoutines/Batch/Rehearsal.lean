import StoredRoutines.Batch.Run
import StoredRoutines.Database.InMemory

/-!
# Rehearsals

A rehearsal is a run on an empty database in memory, without records of earlier runs. It shows
which sources could be loaded and what would be reported.

## Main definitions

- `filesOf` — a file tree with the given sources
- `rehearse` — the run
- `Notice.line` — a notice as a line of text
-/

namespace StoredRoutines

/-- A file tree that holds the given sources. -/
def filesOf (sources : List (Path × ByteArray)) : FileTree :=
  sources.foldl (fun files (path, content) => files.add path content 0) (FileTree.empty 0)

/-- A run on an empty database with the given sources, of which those that are listed are
    loaded. -/
def rehearse (config : Config) (listed : List Path) (sources : List (Path × ByteArray)) :
    Outcome InMemory :=
  run inMemory config listed (filesOf sources) ⟨InMemory.empty, []⟩

/-- How grave a notice is, as a word. -/
def Severity.word : Severity → String
  | info => "INFO"
  | warning => "WARN"
  | error => "ERROR"

/-- A notice as a line of text. -/
def Notice.line (n : Notice) : String :=
  n.severity.word ++ " " ++ n.text

/-- The failure of a run in which routines could not be loaded. -/
def Report.failure? (r : Report) : Option String :=
  if r.hasFailures then some (toString r.failed.length ++ " routine(s) failed to load") else none

end StoredRoutines
