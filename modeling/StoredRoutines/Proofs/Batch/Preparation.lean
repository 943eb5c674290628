import StoredRoutines.Proofs.Load.Statements

/-!
# The preparation of a run

On the in-memory database the values of the placeholders and the session settings of a run can be
told in advance, and preparing the run leaves the routines alone.

## Main definitions

- `Run` — what a run is given
- `Run.table`, `Run.session`, `Run.sources?` — what it finds out before it visits its sources
- `Run.begun?` — the records and the session it visits them with
- `sampleConfig`, `outcomeNames` — what examples of runs have in common

## Main results

- `Run.loadPhase_of_begun` — a run that gets to its sources
- `Run.outcome_of_not_begun` — a run that does not
-/

namespace StoredRoutines

namespace InMemory

theorem rows_sqlModeQuery (d : InMemory) :
    rows Loading.sqlModeQuery d = [SortedMap.ofList [("sql_mode", some d.settings.sqlMode)]] := by
  unfold rows
  exact if_pos (by decide)

/-- The row of the query holds the mode of the session, and the query is all that is recorded. -/
theorem fetchRow_sqlModeQuery {d d' : InMemory} {row : Option Row}
    (h : inMemory.fetchRow Loading.sqlModeQuery d = (.ok row, d')) :
    Loading.sqlModeOfRow? row = some d.settings.sqlMode ∧ d' = d.record Loading.sqlModeQuery := by
  rw [Database.fetchRow, inMemory_fetchRows] at h
  rcases hd : statement Loading.sqlModeQuery
    (fun s => .ok (rows Loading.sqlModeQuery s, s)) d with ⟨e | rs, u⟩
  · rw [hd] at h
    cases h
  · have hact := statement_eq_ok hd
    rw [rows_sqlModeQuery] at hact
    cases hact
    rw [hd] at h
    cases h
    refine ⟨?_, rfl⟩
    simp [Loading.sqlModeOfRow?, SortedMap.get?_ofList]
    rfl

theorem fetchRow_database (sql : String) (d : InMemory) :
    (inMemory.fetchRow sql d).2 = (inMemory.fetchRows sql d).2 := by
  unfold Database.fetchRow
  rcases inMemory.fetchRows sql d with ⟨_ | _ | ⟨row, _ | ⟨row', rows⟩⟩, d'⟩ <;> rfl

end InMemory

namespace Loading

/-- Finding out the SQL mode stays within a frame that allows both statements to be recorded and
    the session to change. -/
theorem canonicalSession_within {F : Frame InMemory} (configured : SessionSettings)
    (hmode : ∀ d : InMemory, F.rel d (d.record (Database.sqlModeStatement configured.sqlMode)))
    (hquery : ∀ d : InMemory, F.rel d (d.record sqlModeQuery))
    (hact : ∀ d : InMemory, F.rel d (d.withSqlMode configured.sqlMode)) :
    Within F (canonicalSession inMemory configured) := by
  refine .bind (.ask fun d => ?_) fun _ => .bind (.ask fun d => ?_) fun _ => .pure _
  · rw [inMemory_setSqlMode]
    refine InMemory.statement_rel hmode (fun d _ d' h => ?_) d
    cases h
    exact hact d
  · rw [InMemory.fetchRow_database, inMemory_fetchRows]
    refine InMemory.statement_rel hquery (fun d _ d' h => ?_) d
    cases h
    exact F.refl d

/-- The SQL mode of the session is the one that the database puts in its place. -/
theorem canonicalSession_eq_ok {configured session : SessionSettings} {s s' : Session InMemory}
    (h : canonicalSession inMemory configured s = .ok session s') :
    session = { configured with
      sqlMode := s.database.canonicalSqlMode.getD configured.sqlMode } := by
  unfold canonicalSession at h
  obtain ⟨_, a, ha, hrest⟩ := bind_eq_ok_iff.1 h
  obtain ⟨row, b, hb, hend⟩ := bind_eq_ok_iff.1 hrest
  obtain ⟨rfl, rfl⟩ := pure_eq_ok_iff.1 hend
  obtain ⟨-, -, hmode⟩ := ask_sqlMode_eq_ok ha
  obtain ⟨d, hd, rfl⟩ := ask_eq_ok_iff.1 hb
  obtain ⟨hrow, -⟩ := InMemory.fetchRow_sqlModeQuery hd
  rw [hrow, hmode]
  rfl

end Loading

/-- What a run on the in-memory database is given. -/
structure Run where
  config : Config
  listed : List Path
  files : FileTree
  database : InMemory

namespace Run

variable (r : Run)

/-- What the run leaves behind. -/
def outcome : Outcome InMemory :=
  run inMemory r.config r.listed r.files ⟨r.database, []⟩

/-- Where the run keeps its records. -/
def recordsPath : Path := r.config.loader.recordsPath

/-- The placeholders of the constants, and of the columns if they are asked for. -/
def table : Placeholder.Table :=
  (columnTable (if r.config.loader.columnTypePlaceholders then r.database.schemaColumns
    else [])).extend (constantTable r.config.constants)

/-- The session settings in the words of the database. -/
def session : SessionSettings :=
  { r.config.loader.session with
    sqlMode := r.database.canonicalSqlMode.getD r.config.loader.session.sqlMode }

/-- What stays the same during the run. -/
def setting : RunSetting := ⟨r.files, r.table, r.session⟩

/-- The list that the run is given, or else what it discovers. -/
def sources? : Except DiscoveryError (List Path) :=
  if r.listed.isEmpty then discover r.files r.config.loader else .ok r.listed

/-- The sources that are considered, none where they cannot be looked for. -/
def sources : List Path :=
  match r.sources? with
  | .ok paths => paths
  | .error _ => []

/-- The records and the session with which the sources are visited, if the run gets that far. -/
def begun? : Option (Store × Session InMemory) :=
  match Store.load r.files r.recordsPath,
    Loading.canonicalSession inMemory r.config.loader.session ⟨r.database, []⟩, r.sources? with
  | .ok store, .ok _ s, .ok _ => some (store, s)
  | _, _, _ => none

/-- Records and report at the end of the visits: after a full run, records of routines without a
    source are removed. -/
def conclude (p : Progress) : Progress :=
  if r.listed.isEmpty then p.removeAbsent r.sources else p

/-- The session once the SQL mode has been found out. -/
def prepared : Session InMemory :=
  match Loading.canonicalSession inMemory r.config.loader.session ⟨r.database, []⟩ with
  | .ok _ s => s
  | .error _ s => s

/-- The SQL mode can be found out and the sources can be looked for. -/
def isReady : Bool :=
  match Loading.canonicalSession inMemory r.config.loader.session ⟨r.database, []⟩ with
  | .ok _ _ => r.sources?.isOk
  | .error _ _ => false

/-- A run gets to its sources if its records can be loaded and it is ready otherwise. -/
theorem begun?_of_load {store : Store} (hload : Store.load r.files r.recordsPath = .ok store)
    (hready : r.isReady = true) : r.begun? = some (store, r.prepared) := by
  unfold isReady at hready
  rw [begun?, prepared, hload]
  cases hsession : Loading.canonicalSession inMemory r.config.loader.session ⟨r.database, []⟩ with
  | error e s => simp [hsession] at hready
  | ok session s =>
    rw [hsession] at hready
    cases hsources : r.sources? with
    | error e => simp [hsources, Except.isOk, Except.toBool] at hready
    | ok paths => rfl

theorem placeholderTable_eq (notices : List Notice) :
    Loading.placeholderTable inMemory r.config ⟨r.database, notices⟩ =
      .ok r.table ⟨r.database, notices⟩ := by
  unfold Loading.placeholderTable table
  cases r.config.loader.columnTypePlaceholders <;> rfl

/-- The SQL mode of the run is the one that the database puts in its place. -/
theorem session_canonicalIn {d : InMemory}
    (h : d.canonicalSqlMode = r.database.canonicalSqlMode) : r.session.CanonicalIn d := by
  rw [SessionSettings.CanonicalIn, session, h]
  cases r.database.canonicalSqlMode <;> rfl

theorem canonicalSession_kept (configured : SessionSettings) :
    Loading.Within (Frame.view fun d : InMemory => (d.routines, d.canonicalSqlMode))
      (Loading.canonicalSession inMemory configured) :=
  Loading.canonicalSession_within configured (fun _ => rfl) (fun _ => rfl) fun _ => rfl

/-- A run that gets to its sources has read its records and left the routines alone. -/
theorem begun?_eq_some {store : Store} {s : Session InMemory} (h : r.begun? = some (store, s)) :
    Store.load r.files r.recordsPath = .ok store ∧ s.database.routines = r.database.routines ∧
      s.database.canonicalSqlMode = r.database.canonicalSqlMode ∧ r.sources? = .ok r.sources := by
  unfold begun? at h
  split at h
  · next store' session t paths hstore hsession hpaths =>
    cases h
    have hkept := (canonicalSession_kept _).of_ok hsession
    obtain ⟨hroutines, hmode⟩ := Prod.mk.inj hkept
    refine ⟨hstore, hroutines, hmode, ?_⟩
    rw [sources, hpaths]
  · cases h

/-- Until a run visits its sources, it has only found out the SQL mode. -/
theorem logged_begun {store : Store} {s : Session InMemory} (h : r.begun? = some (store, s)) :
    (Frame.logged fun sql => sql = Database.sqlModeStatement r.config.loader.session.sqlMode ∨
      sql = Loading.sqlModeQuery).rel r.database s.database := by
  unfold begun? at h
  split at h
  · next store' session t paths hstore hsession hpaths =>
    cases h
    have hwithin := Loading.canonicalSession_within (F := Frame.logged fun sql =>
      sql = Database.sqlModeStatement r.config.loader.session.sqlMode ∨
        sql = Loading.sqlModeQuery) r.config.loader.session
      (fun d => ⟨[_], rfl, fun sql hsql => .inl (List.mem_singleton.1 hsql)⟩)
      (fun d => ⟨[_], rfl, fun sql hsql => .inr (List.mem_singleton.1 hsql)⟩)
      (fun d => ⟨[], (List.append_nil _).symm, nofun⟩)
    exact hwithin.of_ok hsession
  · cases h

/-- A run that gets to its sources visits them, and then the records of missing sources are
    removed. -/
theorem loadPhase_of_begun {store : Store} {s : Session InMemory}
    (h : r.begun? = some (store, s)) :
    ∃ s', loadPhase inMemory r.config r.listed r.files ⟨r.database, []⟩ =
        .ok (r.conclude (loadSources inMemory r.setting r.sources store s).1) s' ∧
      s'.database = (loadSources inMemory r.setting r.sources store s).2.database := by
  obtain ⟨hstore, -, -, hsources⟩ := r.begun?_eq_some h
  have hsession : Loading.canonicalSession inMemory r.config.loader.session ⟨r.database, []⟩ =
      .ok r.session s := by
    unfold begun? at h
    split at h
    · next _ session t _ _ hs _ =>
      cases h
      rw [hs, Loading.canonicalSession_eq_ok hs]
      rfl
    · cases h
  have hload : Loading.ofExcept
      ((Store.load r.files r.config.loader.recordsPath).mapError RunError.store)
      (⟨r.database, []⟩ : Session InMemory) = .ok store ⟨r.database, []⟩ :=
    Loading.ofExcept_eq_ok_iff.2 ⟨by
      have hs : Store.load r.files r.config.loader.recordsPath = .ok store := hstore
      rw [hs]
      rfl, rfl⟩
  unfold loadPhase conclude
  rw [Loading.bind_of_ok (r.placeholderTable_eq []), Loading.bind_of_ok hload,
    Loading.bind_of_ok hsession]
  -- the sources are those of the list, or those that are found
  unfold sources? at hsources
  cases hlisted : r.listed.isEmpty with
  | true =>
    rw [hlisted, if_pos rfl] at hsources
    simp only [if_true]
    have hfound : Loading.ofExcept ((discover r.files r.config.loader).mapError
        RunError.discovery) s = .ok r.sources s :=
      Loading.ofExcept_eq_ok_iff.2 ⟨by rw [hsources]; rfl, rfl⟩
    rw [Loading.bind_of_ok hfound]
    exact ⟨_, rfl, rfl⟩
  | false =>
    rw [hlisted] at hsources
    have hs : r.listed = r.sources := Except.ok.inj hsources
    rw [← hs]
    exact ⟨_, rfl, rfl⟩

/-- A run that does not get to its sources leaves the routines and the files alone. -/
theorem outcome_of_not_begun (h : r.begun? = none) :
    ∃ e, r.outcome.result = .error e ∧ r.outcome.files = r.files ∧
      r.outcome.session.database.routines = r.database.routines := by
  have hphase : ∃ e s', loadPhase inMemory r.config r.listed r.files ⟨r.database, []⟩ =
      .error e s' ∧ s'.database.routines = r.database.routines := by
    rw [loadPhase, Loading.bind_of_ok (r.placeholderTable_eq [])]
    -- each stage either fails here or has been passed, since the run has not begun
    unfold begun? recordsPath at h
    cases hstore : Store.load r.files r.config.loader.recordsPath with
    | error e => exact ⟨_, _, rfl, rfl⟩
    | ok store =>
      have hload : Loading.ofExcept ((Except.ok store).mapError RunError.store)
          (⟨r.database, []⟩ : Session InMemory) = .ok store ⟨r.database, []⟩ := rfl
      rw [Loading.bind_of_ok hload]
      cases hsession : Loading.canonicalSession inMemory r.config.loader.session
        ⟨r.database, []⟩ with
      | error e s =>
        rw [Loading.bind_of_error hsession]
        exact ⟨_, _, rfl, (Prod.mk.inj ((canonicalSession_kept _).of_error hsession)).1⟩
      | ok session s =>
        have hroutines := (Prod.mk.inj ((canonicalSession_kept _).of_ok hsession)).1
        rw [Loading.bind_of_ok hsession]
        rw [hstore, hsession] at h
        unfold sources? at h
        cases hlisted : r.listed.isEmpty with
        | false => simp [hlisted] at h
        | true =>
          simp only [hlisted, if_true] at h ⊢
          cases hfound : discover r.files r.config.loader with
          | ok paths => simp [hfound] at h
          | error e => exact ⟨_, _, rfl, hroutines⟩
  obtain ⟨e, s', hphase, hroutines⟩ := hphase
  rw [outcome, run, hphase]
  exact ⟨e, rfl, rfl, hroutines⟩

end Run

/-! ### Examples of runs -/

/-- The settings of a run on the sources below a directory, given the values of placeholders. -/
def sampleConfig (constants : List (String × String)) : Config where
  databaseUrl := "mysql://localhost"
  loader :=
    { sourceDirectory := ⟨"/psql"⟩
      includePatterns := ["*"]
      excludePatterns := []
      recordsPath := ⟨"/routines.json"⟩
      session := ⟨"ANSI", "utf8mb4", "utf8mb4_bin"⟩
      columnTypePlaceholders := true }
  constants := .ofList constants
  logLevel := "info"

/-- The names of the routines that have been loaded, and of those that have failed. -/
def outcomeNames (p : Progress × Session InMemory) : List String × List String :=
  (p.1.report.loaded, p.1.report.failed.map (·.1))

end StoredRoutines
