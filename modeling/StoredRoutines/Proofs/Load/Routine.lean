import StoredRoutines.Proofs.Load.Install

/-!
# What a load does

A load that succeeds has read its source, has carried out the statement of the source and has made
its record of what the source says. A load that fails has done the first part of this.

## Main definitions

- `Source.sent?` — the text that is sent for a source
- `Loading.Installs` — the statements that replace a routine are carried out
- `Loading.RecordOf` — a record that says what its source says

## Main results

- `Loading.routine_findings` — what a record consists of
- `Loading.routine_eq_ok`, `Loading.routine_eq_error` — what has been done at the end of a load
- `Loading.Installs.routines` — the routines after an installation
- `Loading.routines_of_error` — the routines after a load that has failed
-/

namespace StoredRoutines

/-- The text that is sent for a source, if it can be used. -/
def Source.sent? (source : Source) (table : Placeholder.Table) : Option String :=
  match source.parse table with
  | .ok parsed => some (source.statement parsed)
  | .error _ => none

namespace Loading

variable {σ : Type} {db : Database σ}

/-- The statements that replace a routine are carried out, whatever was reported before. -/
def Installs (db : Database σ) (source : Source) (parsed : ParsedRoutine) (context : LoadContext)
    (d d' : σ) : Prop :=
  ∃ notices s, install db source parsed context ⟨d, notices⟩ = .ok () s ∧ s.database = d'

/-- What goes into the record of a source for which the catalog has answered. -/
def findings (source : Source) (parsed : ParsedRoutine) (shape : Option TableShape)
    (parameters : List RoutineParameter) : Findings where
  signature := parsed.signature
  directives := parsed.directives
  parameters := parameters
  shape := shape
  doc := parsed.doc
  timestamp := source.mtime
  replace := parsed.replace

/-- What a record takes from its source. -/
structure RecordOf (source : Source) (parsed : ParsedRoutine) (record : RoutineRecord) :
    Prop where
  name : record.name = parsed.signature.name
  kind : record.kind = parsed.signature.kind
  timestamp : record.timestamp = source.mtime
  replace : record.replace =
    parsed.replace.filterKeys fun key => !Findings.locationKeys.contains key

section

variable {source : Source} {context : LoadContext} {s s' : Session σ}

/-- All checks on a text have been passed, and what they have found is kept. -/
theorem parse_stages {table : Placeholder.Table} {parsed : ParsedRoutine}
    (h : source.parse table = .ok parsed) :
    ∃ replace directives signature,
      (Placeholder.collect source.text table).complete = .ok replace ∧
        Directives.ofLines source.lines = .ok directives ∧
        Signature.check source.text source.routineName = .ok signature ∧
        (∀ t, directives.returnType = some t → ReturnType.check t = .ok ()) ∧
        parsed = ⟨source.routineName, signature, directives, replace,
          DocBlock.extract source.lines⟩ := by
  unfold Source.parse at h
  cases hr : (Placeholder.collect source.text table).complete with
  | error e => simp [hr, bind, Except.bind] at h
  | ok replace =>
    cases hd : Directives.ofLines source.lines with
    | error e => simp [hr, hd, bind, Except.bind] at h
    | ok directives =>
      cases hs : Signature.check source.text source.routineName with
      | error e => simp [hr, hd, hs, bind, Except.bind] at h
      | ok signature =>
        refine ⟨replace, directives, signature, rfl, rfl, rfl, ?_⟩
        -- the return type is checked last, and only if there is one
        cases ht : directives.returnType with
        | none =>
          simp only [hr, hd, hs, ht, bind, Except.bind, pure, Except.pure] at h
          exact ⟨nofun, (Except.ok.inj h).symm⟩
        | some t =>
          cases hc : ReturnType.check t with
          | error e => simp [hr, hd, hs, ht, hc, bind, Except.bind] at h
          | ok u =>
            simp only [hr, hd, hs, ht, hc, bind, Except.bind, pure, Except.pure] at h
            refine ⟨?_, (Except.ok.inj h).symm⟩
            rintro _ ⟨⟩
            exact hc

/-- The checks on a text name the routine after its file. -/
theorem parse_eq_ok {table : Placeholder.Table} {parsed : ParsedRoutine}
    (h : source.parse table = .ok parsed) :
    parsed.name = source.routineName ∧
      (Placeholder.collect source.text table).complete = .ok parsed.replace ∧
      Signature.find? source.text = some parsed.signature ∧
      parsed.signature.name = source.routineName ∧
      Directives.ofLines source.lines = .ok parsed.directives := by
  obtain ⟨replace, directives, signature, hr, hd, hs, -, rfl⟩ := parse_stages h
  obtain ⟨hfind, hname⟩ := Signature.check_eq_ok_iff.1 hs
  exact ⟨rfl, hr, hfind, hname, hd⟩

theorem parse_returnType {table : Placeholder.Table} {parsed : ParsedRoutine}
    (h : source.parse table = .ok parsed) {t : String}
    (ht : parsed.directives.returnType = some t) : ReturnType.check t = .ok () := by
  obtain ⟨replace, directives, signature, -, -, -, hcheck, rfl⟩ := parse_stages h
  exact hcheck t ht

/-- A load that succeeds returns the record of what its source says and of what the catalog has
    answered. -/
theorem routine_findings {record : RoutineRecord}
    (h : routine db source context s = .ok record s') :
    ∃ parsed d notices shape parameters, source.parse context.table = .ok parsed ∧
      Installs db source parsed context s.database d ∧
      reconcile db parsed ⟨d, notices⟩ = .ok (shape, parameters) s' ∧
      record = (findings source parsed shape parameters).record := by
  unfold routine at h
  obtain ⟨_, a, ha, hparsed⟩ := bind_eq_ok_iff.1 h
  obtain rfl := notify_eq_ok_iff.1 ha
  obtain ⟨parsed, b, hb, hloading⟩ := bind_eq_ok_iff.1 hparsed
  obtain ⟨hparse, rfl⟩ := ofExcept_eq_ok_iff.1 hb
  obtain ⟨_, c, hc, hinstall⟩ := bind_eq_ok_iff.1 hloading
  obtain rfl := notify_eq_ok_iff.1 hc
  obtain ⟨_, t, ht, hreconcile⟩ := bind_eq_ok_iff.1 hinstall
  obtain ⟨⟨shape, parameters⟩, u, hr, hend⟩ := bind_eq_ok_iff.1 hreconcile
  obtain ⟨rfl, rfl⟩ := pure_eq_ok_iff.1 hend
  exact ⟨parsed, t.database, t.notices, shape, parameters, hparse, ⟨_, t, ht, rfl⟩, hr, rfl⟩

/-- A load that succeeds has parsed its source, installed the routine and made its record. -/
theorem routine_eq_ok {record : RoutineRecord}
    (h : routine db source context s = .ok record s') :
    ∃ parsed d, source.parse context.table = .ok parsed ∧
      Installs db source parsed context s.database d ∧ RecordOf source parsed record ∧
      ∃ notices r, reconcile db parsed ⟨d, notices⟩ = .ok r s' := by
  obtain ⟨parsed, d, notices, shape, parameters, hparse, hinstalls, hr, rfl⟩ := routine_findings h
  exact ⟨parsed, d, hparse, hinstalls, ⟨rfl, rfl, rfl, rfl⟩, notices, _, hr⟩

/-- What has happened when a load has failed: the source could not be used, or its routine not be
    installed, or the catalog refused an answer after that. -/
theorem routine_eq_error {e : LoadError} (h : routine db source context s = .error e s') :
    s'.database = s.database ∨
      ∃ parsed, source.parse context.table = .ok parsed ∧
        ((∃ notices, install db source parsed context ⟨s.database, notices⟩ = .error e s') ∨
          ∃ d, Installs db source parsed context s.database d ∧
            ∃ notices, reconcile db parsed ⟨d, notices⟩ = .error e s') := by
  unfold routine at h
  rcases bind_eq_error_iff.1 h with h | ⟨_, a, ha, h⟩
  · exact absurd h notify_ne_error
  obtain rfl := notify_eq_ok_iff.1 ha
  rcases bind_eq_error_iff.1 h with h | ⟨parsed, b, hb, h⟩
  · obtain ⟨-, rfl⟩ := ofExcept_eq_error_iff.1 h
    exact .inl rfl
  obtain ⟨hparse, rfl⟩ := ofExcept_eq_ok_iff.1 hb
  rcases bind_eq_error_iff.1 h with h | ⟨_, c, hc, h⟩
  · exact absurd h notify_ne_error
  obtain rfl := notify_eq_ok_iff.1 hc
  refine .inr ⟨parsed, hparse, ?_⟩
  rcases bind_eq_error_iff.1 h with h | ⟨_, t, ht, h⟩
  · exact .inl ⟨_, h⟩
  refine .inr ⟨t.database, ⟨_, t, ht, rfl⟩, t.notices, ?_⟩
  rcases bind_eq_error_iff.1 h with h | ⟨r, u, hr, h⟩
  · exact h
  · exact absurd h pure_ne_error

end

/-! ### The in-memory database -/

open InMemory (created Creatable kept)

section

variable {source : Source} {parsed : ParsedRoutine} {context : LoadContext} {d d' : InMemory}

/-- A routine that is installed takes the place of the one of the same name, under the session of
    the run. -/
theorem Installs.routines (hcatalog : context.catalog = d.catalogEntry parsed.name)
    (hsession : context.session.CanonicalIn d)
    (h : Installs inMemory source parsed context d d') :
    Creatable (d.routines.erase parsed.name) (source.statement parsed) ∧
      d'.routines =
        created (d.routines.erase parsed.name) (source.statement parsed) context.session := by
  obtain ⟨notices, s, hs, rfl⟩ := h
  exact install_eq_ok (s := ⟨d, notices⟩) hcatalog hsession hs

/-- A load that fails either has not installed its routine, which may be gone, or has installed it
    and has left the routines as they were then. -/
theorem routines_of_error {s s' : Session InMemory} {e : LoadError}
    (hcatalog : context.catalog = s.database.catalogEntry source.routineName)
    (h : routine inMemory source context s = .error e s') :
    (s'.database.routines = s.database.routines ∨
      s'.database.routines = s.database.routines.erase source.routineName) ∨
    ∃ parsed d, source.parse context.table = .ok parsed ∧
      Installs inMemory source parsed context s.database d ∧ s'.database.routines = d.routines := by
  rcases routine_eq_error h with h | ⟨parsed, hparse, ⟨notices, h⟩ | ⟨d, hd, notices, h⟩⟩
  · exact .inl (.inl (by rw [h]))
  · obtain ⟨hname, -⟩ := parse_eq_ok hparse
    rw [← hname] at hcatalog ⊢
    exact .inl (install_eq_error (s := ⟨s.database, notices⟩) hcatalog h)
  · have hkept := (reconcile_within (asks_kept parsed.name)).of_error h
    exact .inr ⟨parsed, d, hparse, hd, congrArg Prod.fst hkept⟩

end

end Loading

end StoredRoutines
