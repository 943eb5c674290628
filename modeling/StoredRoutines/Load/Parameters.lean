import StoredRoutines.DocBlock
import StoredRoutines.Load.Session
import StoredRoutines.Record.Basic

/-!
# The parameters of a routine

The catalog decides about names and types of parameters; the directives add the formats of
lists, and the doc block is compared with the result.

## Main definitions

- `RoutineParameter.ofCatalog?` — a parameter that the catalog lists under a name
- `RoutineParameter.merge` — the parameters of the catalog with the formats of the directives
- `DocReport` — parameters without documentation, and documentation without a parameter
- `resolveParameters` — the parameters of a routine of the database
-/

namespace StoredRoutines

namespace RoutineParameter

/-- The parameter of a catalog entry. The return value of a function has no name and is none. -/
def ofCatalog? (p : CatalogParameter) : Option RoutineParameter :=
  match p.name with
  | some name =>
    if name.isEmpty then none
    else some ⟨name, p.dataType, p.declaredType, p.characterSet, p.collation, p.descriptor, none⟩
  | none => none

/-- The parameters with a list format at the first one of its name. -/
def attach (format : ListParameter) :
    List RoutineParameter → Except LoadError (List RoutineParameter)
  | [] => .error (.unknownListParameter format.name)
  | p :: rest =>
    if p.name = format.name then .ok ({ p with format := some format } :: rest)
    else (attach format rest).map (p :: ·)

/-- The parameters with all list formats, one after the other. -/
def attachAll (parameters : List RoutineParameter) :
    List ListParameter → Except LoadError (List RoutineParameter)
  | [] => .ok parameters
  | format :: rest => do attachAll (← attach format parameters) rest

/-- The named parameters of a catalog with the list formats of the directives. -/
def merge (catalog : List CatalogParameter) (formats : List ListParameter) :
    Except LoadError (List RoutineParameter) :=
  attachAll (catalog.filterMap ofCatalog?) formats

end RoutineParameter

/-- Where the documentation and the parameters of a routine differ. -/
structure DocReport where
  /-- The parameters that are not documented, in order of declaration. -/
  undocumented : List String
  /-- The documented names that are no parameters, in order of appearance. -/
  unknown : List String
  deriving DecidableEq, Repr

namespace DocReport

/-- The differences between parameters and documentation. -/
def of (parameters : List RoutineParameter) (doc : DocBlock) : DocReport where
  undocumented :=
    (parameters.map (·.name)).filter fun n => !(doc.parameters.map (·.name)).contains n
  unknown :=
    (doc.parameters.map (·.name)).filter fun n => !(parameters.map (·.name)).contains n

/-- Whether there are no differences. -/
def isClean (report : DocReport) : Bool :=
  report.undocumented.isEmpty && report.unknown.isEmpty

/-- The differences as remarks. -/
def notices (report : DocReport) : List Notice :=
  report.undocumented.map (fun n => .warning ("Parameter " ++ n ++ " is missing from doc block")) ++
    report.unknown.map fun n => .warning ("Unknown parameter " ++ n ++ " found in doc block")

end DocReport

/-- The parameters that the database lists for a routine, with the formats of the directives. -/
def Loading.resolveParameters {σ : Type} (db : Database σ) (routine : String)
    (formats : List ListParameter) : Loading σ LoadError (List RoutineParameter) := do
  let catalog ← ask (.loadFailed routine) (db.routineParameters routine)
  ofExcept (RoutineParameter.merge catalog formats)

end StoredRoutines
