import StoredRoutines.Batch.Placeholders
import StoredRoutines.Batch.Report
import StoredRoutines.Load.Routine

/-!
# Runs

A run loads the routines whose sources have to be loaded, one after the other and in one session.
A routine that fails is reported and the run goes on.

## Main definitions

- `loadSource` — one source, loaded if there is a reason to
- `Progress` — the records and the report so far
- `duplicates` — routines with more than one source
- `loadSources` — the sources of a list
- `Outcome`, `run` — a whole run, from the settings to the file of the records

## Design notes

Loading never touches the files, which are therefore handed down as a value; only the last step
of a run, saving the records, answers with a new file tree.
-/

namespace StoredRoutines

/-- What stays the same while the sources of a run are loaded. -/
structure RunSetting where
  /-- The files. -/
  files : FileTree
  /-- The values of the placeholders. -/
  table : Placeholder.Table
  /-- The settings under which routines are created. -/
  session : SessionSettings

/-- The records and the report so far. -/
structure Progress where
  /-- The records. -/
  store : Store
  /-- The report. -/
  report : Report

section

variable {σ : Type}

/-- Loads a source if there is a reason to; otherwise there is no new record. -/
def loadSource (db : Database σ) (setting : RunSetting) (store : Store) (path : Path) :
    Loading σ LoadError (Option RoutineRecord) := do
  let modified ← Loading.ofExcept (modifiedTime setting.files path)
  let catalog ← Loading.ask (.loadFailed path.stem) (db.routineInfo path.stem)
  match reloadReason? (store.get? path.stem) modified setting.table catalog setting.session with
  | none => return none
  | some _ =>
    let source ← Loading.ofExcept (readSource setting.files path)
    let record ← Loading.routine db source ⟨setting.table, setting.session, catalog⟩
    return some record

namespace Progress

/-- A routine has been loaded. -/
def addLoaded (p : Progress) (name : String) (record : RoutineRecord) : Progress where
  store := p.store.insert record
  report := { p.report with loaded := p.report.loaded ++ [name] }

/-- A routine did not have to be loaded. -/
def addUnchanged (p : Progress) (name : String) : Progress :=
  { p with report := { p.report with unchanged := p.report.unchanged ++ [name] } }

/-- A routine could not be loaded; its record goes. -/
def addFailed (p : Progress) (name message : String) : Progress where
  store := p.store.remove name
  report := { p.report with failed := p.report.failed ++ [(name, message)] }

end Progress

/-- Adds a notice to a session. -/
def Session.notify (s : Session σ) (n : Notice) : Session σ :=
  { s with notices := s.notices ++ [n] }

/-- Loads the source at a path and notes the outcome. -/
def loadPath (db : Database σ) (setting : RunSetting) (p : Progress) (s : Session σ)
    (path : Path) : Progress × Session σ :=
  match loadSource db setting p.store path s with
  | .ok (some record) s => (p.addLoaded path.stem record, s)
  | .ok none s => (p.addUnchanged path.stem, s)
  | .error e s => (p.addFailed path.stem e.message, s.notify (.error e.message))

/-- The routines with more than one source in a list, in order of their names, with the paths. -/
def duplicates (paths : List Path) : List (String × List Path) :=
  (sortedDistinct (paths.map Path.stem)).filterMap fun name =>
    let sources := paths.filter fun p => p.stem == name
    if 1 < sources.length then some (name, sources) else none

/-- What is reported about a routine with more than one source. -/
def duplicateMessage (name : String) (sources : List Path) : String :=
  "Stored routine '" ++ name ++ "' is defined by more than one source: " ++
    ", ".intercalate (sources.map (·.text))

/-- Notes that a routine has more than one source. -/
def noteDuplicate (p : Progress) (s : Session σ) (name : String) (sources : List Path) :
    Progress × Session σ :=
  (p.addFailed name (duplicateMessage name sources),
    s.notify (.error (duplicateMessage name sources)))

/-- Loads the sources of a list in order. Routines with more than one source fail and are not
    loaded. -/
def loadSources (db : Database σ) (setting : RunSetting) (paths : List Path) (store : Store)
    (s : Session σ) : Progress × Session σ :=
  let repeated := duplicates paths
  let start := repeated.foldl (fun (p, s) d => noteDuplicate p s d.1 d.2) (⟨store, .empty⟩, s)
  (paths.filter fun p => !(repeated.map (·.1)).contains p.stem).foldl
    (fun (p, s) path => loadPath db setting p s path) start

namespace Progress

/-- The records of routines without a source are removed. -/
def removeAbsent (p : Progress) (paths : List Path) : Progress :=
  let (removed, store) := p.store.retain fun name => (paths.map Path.stem).contains name
  ⟨store, { p.report with removed }⟩

/-- The notices about removed records. -/
def removalNotices (p : Progress) : List Notice :=
  p.report.removed.map fun name =>
    .info ("Source of " ++ name ++ " no longer exists; metadata removed")

end Progress

/-- Everything a run does before the records are saved. Without listed paths all sources are
    considered. -/
def loadPhase (db : Database σ) (config : Config) (listed : List Path) (files : FileTree) :
    Loading σ RunError Progress := do
  let table ← Loading.placeholderTable db config
  let store ← Loading.ofExcept ((Store.load files config.loader.recordsPath).mapError .store)
  let session ← Loading.canonicalSession db config.loader.session
  let paths ←
    if listed.isEmpty then Loading.ofExcept ((discover files config.loader).mapError .discovery)
    else pure listed
  let progress ← fun s =>
    let (p, s) := loadSources db ⟨files, table, session⟩ paths store s
    .ok p s
  if listed.isEmpty then
    let progress := progress.removeAbsent paths
    Loading.notify progress.removalNotices
    return progress
  else
    return progress

/-- What a run leaves behind. -/
structure Outcome (σ : Type) where
  /-- The report, or why there is none. -/
  result : Except RunError Report
  /-- The session after the run. -/
  session : Session σ
  /-- The files after the run. -/
  files : FileTree

/-- A whole run. -/
def run (db : Database σ) (config : Config) (listed : List Path) (files : FileTree)
    (s : Session σ) : Outcome σ :=
  match loadPhase db config listed files s with
  | .error e s => ⟨.error e, s, files⟩
  | .ok progress s =>
    match progress.store.save files with
    | (.error e, files) => ⟨.error (.store e), s, files⟩
    | (.ok (), files) => ⟨.ok progress.report, s, files⟩

end

end StoredRoutines
