import StoredRoutines.Directive.Header
import StoredRoutines.Load.Parameters
import StoredRoutines.Placeholder.Substitution
import StoredRoutines.Record.Assembly
import StoredRoutines.Reload
import StoredRoutines.Source

/-!
# Loading a routine

A source is first read as a text, without the database. Its placeholders are then replaced, the
previous version of the routine is dropped and the new one created, and the record is put
together from what the catalog reports.

## Main definitions

- `ParsedRoutine` — what the text of a source says
- `Source.parse` — the checks on the text
- `Source.notices` — the remarks that go with them
- `Source.location` — the location constants of a source
- `Loading.install` — the statements that replace the routine in the database
- `Loading.reconcile` — the questions to the catalog
- `Loading.routine` — the whole load
-/

namespace StoredRoutines

/-- What the text of a source says. -/
structure ParsedRoutine where
  /-- The name that the file gives the routine. -/
  name : String
  /-- The kind and the name that the text declares. -/
  signature : Signature
  /-- The directives. -/
  directives : Directives
  /-- The placeholders with their values. -/
  replace : SortedMap String
  /-- The doc block. -/
  doc : DocBlock
  deriving DecidableEq

/-- The setting in which a routine is loaded. -/
structure LoadContext where
  /-- The values of the placeholders. -/
  table : Placeholder.Table
  /-- The settings under which the routine is created. -/
  session : SessionSettings
  /-- The catalog entry of the version that is there already. -/
  catalog : Option CatalogRoutine

namespace Source

/-- A number at the right end of four columns; longer numbers take the room they need. -/
def padded (number : Nat) : String :=
  let digits := (toString number).toList
  String.ofList (List.replicate (4 - digits.length) ' ' ++ digits)

/-- The remarks on unknown placeholders: which they are, and the lines on which they stand. -/
def unknownNotices (text : String) (unknown : List String) : List Notice :=
  .warning ("Unknown placeholder(s): " ++ ", ".intercalate unknown) ::
    (Placeholder.linesWithTokens text unknown).map fun (number, line) =>
      .warning ("  " ++ padded number ++ ": " ++ line)

/-- What the text of a source says, or the first thing that is wrong with it. -/
def parse (source : Source) (table : Placeholder.Table) : Except LoadError ParsedRoutine := do
  let replace ← (Placeholder.collect source.text table).complete
  let directives ← Directives.ofLines source.lines
  let signature ← Signature.check source.text source.routineName
  match directives.returnType with
  | some returnType => ReturnType.check returnType
  | none => pure ()
  return ⟨source.routineName, signature, directives, replace, DocBlock.extract source.lines⟩

/-- What is remarked while the text of a source is read. -/
def notices (source : Source) (table : Placeholder.Table) : List Notice :=
  let unknown := (Placeholder.collect source.text table).unknown
  if unknown ≠ [] then unknownNotices source.text unknown else Directives.notices source.lines

/-- The location constants of a source. -/
def location (source : Source) (routine : String) : Placeholder.Location where
  file := Sql.literal source.path.text
  routine := "'" ++ routine ++ "'"
  dir := Sql.literal source.path.directory

/-- The statement that creates the routine of a source. -/
def statement (source : Source) (parsed : ParsedRoutine) : String :=
  Placeholder.substitute source.text parsed.replace (some (source.location parsed.name))

end Source

namespace Loading

variable {σ : Type}

/-- Drops the previous version of a routine, sets the session and creates the new version. -/
def install (db : Database σ) (source : Source) (parsed : ParsedRoutine) (context : LoadContext) :
    Loading σ LoadError Unit := do
  match context.catalog with
  | some previous => ask (.loadFailed parsed.name) (db.dropRoutine previous.kind parsed.name)
  | none => pure ()
  ask (.loadFailed parsed.name) (db.setSqlMode context.session.sqlMode)
  ask (.loadFailed parsed.name)
    (db.setCharacterSet context.session.characterSet context.session.collation)
  ask (.loadFailed parsed.name) (db.execute (source.statement parsed))

/-- Asks the catalog for the table and the parameters of a routine, and compares them with the
    doc block. -/
def reconcile (db : Database σ) (parsed : ParsedRoutine) :
    Loading σ LoadError (Option TableShape × List RoutineParameter) := do
  let shape ← resolveColumns db parsed.name parsed.directives.designation
  let parameters ← resolveParameters db parsed.name parsed.directives.listParameters
  notify (DocReport.of parameters parsed.doc).notices
  return (shape, parameters)

/-- Loads a routine and returns its record. -/
def routine (db : Database σ) (source : Source) (context : LoadContext) :
    Loading σ LoadError RoutineRecord := do
  notify (source.notices context.table)
  let parsed ← ofExcept (source.parse context.table)
  notify [.info ("Loading routine " ++ parsed.name)]
  install db source parsed context
  let (shape, parameters) ← reconcile db parsed
  return Findings.record
    { signature := parsed.signature
      directives := parsed.directives
      parameters := parameters
      shape := shape
      doc := parsed.doc
      timestamp := source.mtime
      replace := parsed.replace }

end Loading

end StoredRoutines
