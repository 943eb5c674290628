import StoredRoutines.Load.Routine
import StoredRoutines.Proofs.Load.Frame

/-!
# What a load does to the routines

A load of a routine drops the version that is there and creates the new one under the session
settings; all later questions to the catalog leave the routines alone.

## Main definitions

- `InMemory.created` — the routines after a statement that may create one
- `SessionSettings.CanonicalIn` — the SQL mode is spelled as the database keeps it

## Main results

- `Loading.install_eq_ok`, `Loading.install_eq_error` — the routines after an installation
-/

namespace StoredRoutines

namespace InMemory

/-- The routines after a statement has been carried out under the given settings. -/
def created (routines : SortedMap StoredRoutine) (sql : String) (settings : SessionSettings) :
    SortedMap StoredRoutine :=
  match Signature.find? sql with
  | none => routines
  | some signature => routines.insert signature.name ⟨signature.kind, sql, settings⟩

/-- No routine stands in the way of the one that the statement defines. -/
def Creatable (routines : SortedMap StoredRoutine) (sql : String) : Prop :=
  ∀ signature, Signature.find? sql = some signature → routines.get? signature.name = none

/-- What no question about a table changes. -/
def kept (d : InMemory) : SortedMap StoredRoutine × SessionSettings × Option String :=
  (d.routines, d.settings, d.canonicalSqlMode)

/-- A definition is executed if it can create its routine, and then it creates it and does nothing
    else. -/
theorem create_eq_ok {sql : String} {d d' : InMemory} {u : Unit}
    (h : create sql d = .ok (u, d')) :
    Creatable d.routines sql ∧ d' = { d with routines := created d.routines sql d.settings } := by
  unfold create at h
  unfold Creatable created
  split at h
  · next hfind =>
    cases h
    rw [hfind]
    exact ⟨fun _ hs => by simp at hs, rfl⟩
  · next signature hfind =>
    split at h
    · simp at h
    · next hnot =>
      cases h
      rw [hfind]
      refine ⟨?_, rfl⟩
      rintro _ ⟨⟩
      simpa [SortedMap.contains] using hnot

/-- A drop does not touch the settings of the session. -/
theorem drop_settings (kind : RoutineKind) (name : String) (d : InMemory) :
    (d.drop kind name).settings = d.settings ∧
      (d.drop kind name).canonicalSqlMode = d.canonicalSqlMode := by
  unfold drop
  split
  · split <;> exact ⟨rfl, rfl⟩
  · exact ⟨rfl, rfl⟩

/-- Dropping a routine under the kind it is listed with removes it, if it is there at all. -/
theorem drop_routines {kind : RoutineKind} {name : String} {d : InMemory}
    (h : ∀ r, d.routines.get? name = some r → r.kind = kind) :
    (d.drop kind name).routines = d.routines.erase name := by
  unfold drop
  split
  · next r hr => rw [if_pos (h r hr)]
  · next hr => exact (SortedMap.erase_of_get?_eq_none hr).symm

end InMemory

/-- A session whose SQL mode the database would not spell in another way. -/
def SessionSettings.CanonicalIn (session : SessionSettings) (d : InMemory) : Prop :=
  d.canonicalSqlMode.getD session.sqlMode = session.sqlMode

namespace Loading

open InMemory (created Creatable kept)

/-- What a database has to leave alone so that the questions after an installation do. -/
structure Asks {σ : Type} (db : Database σ) (F : Frame σ) (routine : String) : Prop where
  table : ∀ t d, F.rel d (db.tableExists t d).2
  parameters : ∀ d, F.rel d (db.routineParameters routine d).2
  call : ∀ d, F.rel d (db.callRoutine routine d).2
  describe : ∀ t d, F.rel d (db.describeTable t d).2
  dropTemporary : ∀ t d, F.rel d (db.dropTemporaryTable t d).2

section

variable {σ : Type} {db : Database σ} {F : Frame σ}

theorem describeCreated_within {routine : String} (h : Asks db F routine) (table : String) :
    Within F (describeCreated db routine table) := by
  refine .bind (.ask h.call) fun _ => .bind (.attempt (h.describe table)) fun described =>
    .bind (.attempt (h.dropTemporary table)) fun dropped => ?_
  rcases described with e | columns <;> rcases dropped with e' | u
  · exact .bind (.notify _) fun _ => .pure _
  · exact .pure _
  · exact .throw _
  · exact .pure _

/-- The shape of a table of a bulk insert, once the table has been described. -/
def checkColumns (routine table : String) (listed : List String) :
    Except DatabaseError (List TableColumn) → Loading σ LoadError (Option TableShape)
  | .error e => throw (.loadFailed routine e)
  | .ok columns =>
    if listed.length = columns.length then pure (some (TableShape.ofColumns columns))
    else throw (.columnCountMismatch table listed.length columns.length)

/-- Nothing happens any more once the table has been described. -/
theorem checkColumns_eq {routine table : String} {listed : List String}
    {described : Except DatabaseError (List TableColumn)} {s : Session σ} :
    checkColumns routine table listed described s =
      match described with
      | .error c => .error (.loadFailed routine c) s
      | .ok columns =>
        if listed.length = columns.length then .ok (some (TableShape.ofColumns columns)) s
        else .error (.columnCountMismatch table listed.length columns.length) s := by
  cases described with
  | error c => rfl
  | ok columns =>
    by_cases hl : listed.length = columns.length
    · simp only [checkColumns, hl, if_true]
      rfl
    · simp only [checkColumns, hl, if_false]
      rfl

/-- The columns are accepted if the table was described with as many columns as are listed. -/
theorem checkColumns_eq_ok_iff {routine table : String} {listed : List String}
    {described : Except DatabaseError (List TableColumn)} {s s' : Session σ}
    {shape : Option TableShape} :
    checkColumns routine table listed described s = .ok shape s' ↔
      s = s' ∧ ∃ columns, described = .ok columns ∧ listed.length = columns.length ∧
        some (TableShape.ofColumns columns) = shape := by
  rw [checkColumns_eq]
  cases described with
  | error c => simp
  | ok columns =>
    by_cases hl : listed.length = columns.length
    · simp [hl, and_comm]
    · simp [hl]

/-- The columns are refused if the table was not described or has another number of columns. -/
theorem checkColumns_eq_error_iff {routine table : String} {listed : List String}
    {described : Except DatabaseError (List TableColumn)} {s s' : Session σ} {e : LoadError} :
    checkColumns routine table listed described s = .error e s' ↔
      s = s' ∧ ((∃ c, described = .error c ∧ .loadFailed routine c = e) ∨
        ∃ columns, described = .ok columns ∧ listed.length ≠ columns.length ∧
          .columnCountMismatch table listed.length columns.length = e) := by
  rw [checkColumns_eq]
  cases described with
  | error c => simp [and_comm]
  | ok columns =>
    by_cases hl : listed.length = columns.length
    · simp [hl]
    · simp [hl, and_comm]

/-- For a bulk insert the table is looked up, described and checked. -/
theorem resolveColumns_bulkInsert (routine table : String) (listed : List String) :
    resolveColumns db routine (.bulkInsert table listed) =
      ask (.loadFailed routine) (db.tableExists table) >>= fun permanent =>
        (if permanent then attempt (db.describeTable table)
          else describeCreated db routine table) >>=
          checkColumns routine table listed := by
  unfold resolveColumns
  refine bind_congr fun permanent => ?_
  cases permanent with
  | true => rfl
  | false => rfl

theorem checkColumns_within (routine table : String) (listed : List String)
    (described : Except DatabaseError (List TableColumn)) :
    Within F (checkColumns routine table listed described) := by
  cases described with
  | error e => exact .throw _
  | ok columns =>
    unfold checkColumns
    by_cases hl : listed.length = columns.length
    · simp only [hl, if_true]
      exact .pure _
    · simp only [hl, if_false]
      exact .throw _

/-- The resolution of columns stays within every frame for the questions that it asks. -/
theorem resolveColumns_within {routine : String} (h : Asks db F routine) (d : Designation) :
    Within F (resolveColumns db routine d) := by
  cases d with
  | bulkInsert table listed =>
    rw [resolveColumns_bulkInsert]
    refine .bind (.ask (h.table table)) fun permanent => ?_
    refine .bind ?_ (checkColumns_within routine table listed)
    cases permanent with
    | true => exact .attempt (h.describe table)
    | false => exact describeCreated_within h table
  | _ => exact .pure _

/-- The questions to the catalog stay within what each of them stays within. -/
theorem reconcile_within {parsed : ParsedRoutine} (h : Asks db F parsed.name) :
    Within F (reconcile db parsed) :=
  .bind (resolveColumns_within h _) fun _ =>
    .bind (.bind (.ask h.parameters) fun _ => .ofExcept _) fun _ =>
      .bind (.notify _) fun _ => .pure _

end

/-- The database in memory keeps its routines and settings whatever it is asked about a table. -/
theorem asks_kept (routine : String) : Asks inMemory (Frame.view kept) routine where
  table _ _ := rfl
  parameters _ := rfl
  call := InMemory.statement_rel (fun _ => rfl) fun d u d' h => by
    unfold InMemory.call at h
    split at h
    · simp only at h
      split at h <;> cases h <;> rfl
    · simp at h
  describe _ := InMemory.statement_rel (fun _ => rfl) fun d u d' h => by
    unfold InMemory.describe at h
    split at h
    · cases h
      rfl
    · simp at h
  dropTemporary _ := InMemory.statement_rel (fun _ => rfl) fun d u d' h => by
    unfold InMemory.dropTemporary at h
    split at h
    · cases h
      rfl
    · simp at h

/-! ### The installation -/

section

variable {ε : Type} {s s' : Session InMemory} {failed : DatabaseError → ε} {e : ε} {u : Unit}

/-- A drop of the kind that the catalog lists removes the routine. -/
theorem ask_drop_eq_ok {kind : RoutineKind} {name : String}
    (hkind : ∀ r, s.database.routines.get? name = some r → r.kind = kind)
    (h : ask failed (inMemory.dropRoutine kind name) s = .ok u s') :
    s'.database.routines = s.database.routines.erase name ∧
      s'.database.canonicalSqlMode = s.database.canonicalSqlMode := by
  rw [inMemory_dropRoutine] at h
  obtain ⟨d, hd, rfl⟩ := ask_eq_ok_iff.1 h
  have hact := InMemory.statement_eq_ok hd
  simp only [Except.ok.injEq, Prod.mk.injEq] at hact
  obtain ⟨-, rfl⟩ := hact
  exact ⟨InMemory.drop_routines hkind, (InMemory.drop_settings kind name _).2⟩

/-- Setting the SQL mode changes nothing but the mode, and the database puts its own words in
    place. -/
theorem ask_sqlMode_eq_ok {sqlMode : String}
    (h : ask failed (inMemory.setSqlMode sqlMode) s = .ok u s') :
    s'.database.routines = s.database.routines ∧
      s'.database.canonicalSqlMode = s.database.canonicalSqlMode ∧
      s'.database.settings.sqlMode = s.database.canonicalSqlMode.getD sqlMode := by
  rw [inMemory_setSqlMode] at h
  obtain ⟨d, hd, rfl⟩ := ask_eq_ok_iff.1 h
  have hact := InMemory.statement_eq_ok hd
  simp only [Except.ok.injEq, Prod.mk.injEq] at hact
  obtain ⟨-, rfl⟩ := hact
  exact ⟨rfl, rfl, rfl⟩

/-- Setting the character set changes nothing but character set and collation. -/
theorem ask_characterSet_eq_ok {characterSet collation : String}
    (h : ask failed (inMemory.setCharacterSet characterSet collation) s = .ok u s') :
    s'.database.routines = s.database.routines ∧
      s'.database.canonicalSqlMode = s.database.canonicalSqlMode ∧
      s'.database.settings = ⟨s.database.settings.sqlMode, characterSet, collation⟩ := by
  rw [inMemory_setCharacterSet] at h
  obtain ⟨d, hd, rfl⟩ := ask_eq_ok_iff.1 h
  have hact := InMemory.statement_eq_ok hd
  simp only [Except.ok.injEq, Prod.mk.injEq] at hact
  obtain ⟨-, rfl⟩ := hact
  exact ⟨rfl, rfl, rfl⟩

theorem ask_execute_eq_ok {sql : String} (h : ask failed (inMemory.execute sql) s = .ok u s') :
    Creatable s.database.routines sql ∧
      s'.database.routines = created s.database.routines sql s.database.settings ∧
      s'.database.canonicalSqlMode = s.database.canonicalSqlMode := by
  obtain ⟨d, hd, rfl⟩ := ask_eq_ok_iff.1 h
  obtain ⟨hc, rfl⟩ := InMemory.create_eq_ok (InMemory.statement_eq_ok hd)
  exact ⟨hc, rfl, rfl⟩

theorem ask_statement_eq_error {α : Type} {sql : String}
    {act : InMemory → Except DatabaseError (α × InMemory)}
    (h : ask failed (InMemory.statement sql act) s = .error e s') :
    s'.database = s.database.record sql := by
  obtain ⟨c, d, hd, -, rfl⟩ := ask_eq_error_iff.1 h
  exact InMemory.statement_eq_error hd

end

section

variable {source : Source} {parsed : ParsedRoutine} {context : LoadContext}
  {s s' : Session InMemory}

/-- The first step of an installation: the previous version goes, if the catalog lists one. -/
def clear (db : Database InMemory) (parsed : ParsedRoutine) (context : LoadContext) :
    Loading InMemory LoadError Unit :=
  match context.catalog with
  | some previous => ask (.loadFailed parsed.name) (db.dropRoutine previous.kind parsed.name)
  | none => pure ()

theorem install_eq (db : Database InMemory) :
    install db source parsed context = (do
      clear db parsed context
      ask (.loadFailed parsed.name) (db.setSqlMode context.session.sqlMode)
      ask (.loadFailed parsed.name)
        (db.setCharacterSet context.session.characterSet context.session.collation)
      ask (.loadFailed parsed.name) (db.execute (source.statement parsed))) := by
  unfold install clear
  cases context.catalog <;> rfl

/-- Clearing the place removes the routine and nothing else. -/
theorem clear_eq_ok (hcatalog : context.catalog = s.database.catalogEntry parsed.name) {u : Unit}
    (h : clear inMemory parsed context s = .ok u s') :
    s'.database.routines = s.database.routines.erase parsed.name ∧
      s'.database.canonicalSqlMode = s.database.canonicalSqlMode := by
  rw [clear, hcatalog] at h
  unfold InMemory.catalogEntry at h
  cases hr : s.database.routines.get? parsed.name with
  | some r =>
    simp only [hr, Option.map_some] at h
    refine ask_drop_eq_ok (fun r' hr' => ?_) h
    rw [hr] at hr'
    exact (congrArg StoredRoutine.kind (Option.some.inj hr')).symm
  | none =>
    simp only [hr, Option.map_none] at h
    obtain ⟨-, rfl⟩ := pure_eq_ok_iff.1 h
    exact ⟨(SortedMap.erase_of_get?_eq_none hr).symm, rfl⟩

/-- If the place cannot be cleared, no routine is gone. -/
theorem clear_eq_error {e : LoadError} (h : clear inMemory parsed context s = .error e s') :
    s'.database.routines = s.database.routines := by
  unfold clear at h
  cases hc : context.catalog with
  | some previous =>
    simp only [hc, inMemory_dropRoutine] at h
    rw [ask_statement_eq_error h]
    rfl
  | none =>
    simp only [hc] at h
    exact absurd h pure_ne_error

/-- An installation that succeeds has removed the previous version of the routine and carried
    out the statement of the source under the session settings. -/
theorem install_eq_ok (hcatalog : context.catalog = s.database.catalogEntry parsed.name)
    (hsession : context.session.CanonicalIn s.database)
    (h : install inMemory source parsed context s = .ok () s') :
    Creatable (s.database.routines.erase parsed.name) (source.statement parsed) ∧
      s'.database.routines = created (s.database.routines.erase parsed.name)
        (source.statement parsed) context.session := by
  rw [install_eq] at h
  obtain ⟨_, a, ha, h⟩ := bind_eq_ok_iff.1 h
  obtain ⟨_, b, hb, h⟩ := bind_eq_ok_iff.1 h
  obtain ⟨_, c, hc, h⟩ := bind_eq_ok_iff.1 h
  obtain ⟨har, ham⟩ := clear_eq_ok hcatalog ha
  obtain ⟨hbr, -, hbs⟩ := ask_sqlMode_eq_ok hb
  obtain ⟨hcr, -, hcs⟩ := ask_characterSet_eq_ok hc
  obtain ⟨hcreatable, hroutines, -⟩ := ask_execute_eq_ok h
  have hr : c.database.routines = s.database.routines.erase parsed.name :=
    (hcr.trans hbr).trans har
  have hs : c.database.settings = context.session := by
    rw [hcs, hbs, ham, hsession]
  rw [hr] at hcreatable hroutines
  rw [hs] at hroutines
  exact ⟨hcreatable, hroutines⟩

/-- An installation that fails has at most removed the previous version of the routine. -/
theorem install_eq_error (hcatalog : context.catalog = s.database.catalogEntry parsed.name)
    {e : LoadError} (h : install inMemory source parsed context s = .error e s') :
    s'.database.routines = s.database.routines ∨
      s'.database.routines = s.database.routines.erase parsed.name := by
  rw [install_eq] at h
  rcases bind_eq_error_iff.1 h with h | ⟨_, a, ha, h⟩
  · exact .inl (clear_eq_error h)
  refine .inr ?_
  rw [← (clear_eq_ok hcatalog ha).1]
  rcases bind_eq_error_iff.1 h with h | ⟨_, b, hb, h⟩
  · rw [inMemory_setSqlMode] at h
    rw [ask_statement_eq_error h]
    rfl
  rw [← (ask_sqlMode_eq_ok hb).1]
  rcases bind_eq_error_iff.1 h with h | ⟨_, c, hc, h⟩
  · rw [inMemory_setCharacterSet] at h
    rw [ask_statement_eq_error h]
    rfl
  rw [inMemory_execute] at h
  rw [← (ask_characterSet_eq_ok hc).1, ask_statement_eq_error h]
  rfl

end

end Loading

end StoredRoutines
