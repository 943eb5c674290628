import StoredRoutines.Batch.Run
import StoredRoutines.Proofs.Load.Routine
import StoredRoutines.Proofs.Source

/-!
# What a load sends

The statements that a load sends to the database, and the parts of the database that none of them
changes.

## Main definitions

- `Loading.Permits` — what a database has to leave alone so that a load does
- `InMemory.Sent` — the statements that a load may send
- `InMemory.fixed` — what no statement changes, apart from being recorded

## Main results

- `Loading.loadSource_within` — a load stays within what its statements stay within
-/

namespace StoredRoutines

namespace Loading

/-- What a database has to leave alone so that the load of a routine does, given the texts that
    it may be created with. -/
structure Permits {σ : Type} (db : Database σ) (F : Frame σ) (name : String)
    (texts : String → Prop) : Prop extends Asks db F name where
  info : ∀ d, F.rel d (db.routineInfo name d).2
  drop : ∀ kind d, F.rel d (db.dropRoutine kind name d).2
  sqlMode : ∀ mode d, F.rel d (db.setSqlMode mode d).2
  characterSet : ∀ characterSet collation d, F.rel d (db.setCharacterSet characterSet collation d).2
  create : ∀ text, texts text → ∀ d, F.rel d (db.execute text d).2

variable {σ : Type} {db : Database σ} {F : Frame σ} {texts : String → Prop}

/-- An installation stays within a frame that permits its statement. -/
theorem install_within {source : Source} {parsed : ParsedRoutine} (context : LoadContext)
    (h : Permits db F parsed.name texts) (htext : texts (source.statement parsed)) :
    Within F (install db source parsed context) := by
  have hrest : Within F (do
      ask (.loadFailed parsed.name) (db.setSqlMode context.session.sqlMode)
      ask (.loadFailed parsed.name)
        (db.setCharacterSet context.session.characterSet context.session.collation)
      ask (.loadFailed parsed.name) (db.execute (source.statement parsed)) :
        Loading σ LoadError Unit) :=
    .bind (.ask (h.sqlMode _)) fun _ => .bind (.ask (h.characterSet _ _)) fun _ =>
      .ask (h.create _ htext)
  unfold install
  cases context.catalog with
  | none => exact hrest
  | some previous => exact .bind (.ask (h.drop _)) fun _ => hrest

/-- A load stays within a frame that permits the statement of its routine. -/
theorem routine_within {source : Source} (context : LoadContext)
    (h : Permits db F source.routineName texts)
    (htext : ∀ parsed, source.parse context.table = .ok parsed → texts (source.statement parsed)) :
    Within F (routine db source context) := by
  refine .bind (.notify _) fun _ => ?_
  intro s
  cases hparse : source.parse context.table with
  | error e => exact F.refl s.database
  | ok parsed =>
    rw [← (parse_eq_ok hparse).1] at h
    have hrest := Within.bind (.notify [.info ("Loading routine " ++ parsed.name)]) fun _ =>
      .bind (install_within context h (htext parsed hparse)) fun _ =>
        .bind (reconcile_within h.toAsks) fun r => .pure (Findings.record
          { signature := parsed.signature
            directives := parsed.directives
            parameters := r.2
            shape := r.1
            doc := parsed.doc
            timestamp := source.mtime
            replace := parsed.replace })
    exact hrest s

/-- A source stays within a frame that permits whatever its text can become. -/
theorem loadSource_within {setting : RunSetting} {path : Path}
    (h : Permits db F path.stem texts)
    (htext : ∀ source parsed, readSource setting.files path = .ok source →
      source.parse setting.table = .ok parsed → texts (source.statement parsed))
    (store : Store) : Within F (loadSource db setting store path) := by
  refine .bind (.ofExcept _) fun modified => .bind (.ask h.info) fun catalog => ?_
  cases reloadReason? (store.get? path.stem) modified setting.table catalog setting.session with
  | none => exact .pure _
  | some reason =>
    intro s
    cases hread : readSource setting.files path with
    | error e => exact F.refl s.database
    | ok source =>
      rw [← stem_of_readSource hread] at h
      have hrest := Within.bind
        (routine_within ⟨setting.table, setting.session, catalog⟩ h
          fun parsed hparse => htext source parsed hread hparse)
        fun record => .pure (some record)
      exact hrest s

end Loading

/-! ### The in-memory database -/

namespace InMemory

/-- The statements that a load of a routine may send, given the texts that it may be created
    with. -/
inductive Sent (name : String) (texts : String → Prop) : String → Prop where
  | drop (kind : RoutineKind) : Sent name texts (Database.dropStatement kind name)
  | sqlMode (mode : String) : Sent name texts (Database.sqlModeStatement mode)
  | characterSet (characterSet collation : String) :
      Sent name texts (Database.characterSetStatement characterSet collation)
  | create (text : String) (h : texts text) : Sent name texts text
  | call : Sent name texts (Database.callStatement name)
  | describe (table : String) : Sent name texts ("show columns from " ++ table)
  | dropTemporary (table : String) : Sent name texts (Database.dropTemporaryStatement table)

/-- What no statement changes, apart from being recorded. -/
def fixed (d : InMemory) : InMemory :=
  { d with
    calls := []
    settings := ⟨"", "", ""⟩
    routines := SortedMap.empty
    temporaryTables := SortedMap.empty }

theorem create_fixed {sql : String} {d d' : InMemory} {u : Unit}
    (h : create sql d = .ok (u, d')) : d'.fixed = d.fixed := by
  obtain ⟨-, rfl⟩ := create_eq_ok h
  rfl

theorem drop_fixed (kind : RoutineKind) (name : String) (d : InMemory) :
    (d.drop kind name).fixed = d.fixed := by
  unfold drop
  split
  · split <;> rfl
  · rfl

theorem describe_fixed {table : String} {d d' : InMemory} {columns : List TableColumn}
    (h : describe table d = .ok (columns, d')) : d'.fixed = d.fixed := by
  unfold describe at h
  split at h
  · cases h
    rfl
  · cases h

theorem dropTemporary_fixed {table : String} {d d' : InMemory} {u : Unit}
    (h : dropTemporary table d = .ok (u, d')) : d'.fixed = d.fixed := by
  unfold dropTemporary at h
  split at h
  · cases h
    rfl
  · cases h

theorem call_fixed {name : String} {d d' : InMemory} {u : Unit}
    (h : call name d = .ok (u, d')) : d'.fixed = d.fixed := by
  unfold call at h
  split at h
  · simp only at h
    split at h <;> cases h <;> rfl
  · cases h

/-- A load stays within a frame that allows its statements to be recorded and to change whatever
    statements change. -/
theorem permits {F : Frame InMemory} {name : String} {texts : String → Prop}
    (hrecord : ∀ sql, Sent name texts sql → ∀ d, F.rel d (d.record sql))
    (hact : ∀ d d' : InMemory, d'.fixed = d.fixed → F.rel d d') :
    Loading.Permits inMemory F name texts where
  info _ := F.refl _
  table _ _ := F.refl _
  parameters _ := F.refl _
  drop kind :=
    statement_rel (hrecord _ (.drop kind)) fun d _ d' h => by
      cases h
      exact hact _ _ (drop_fixed _ _ _)
  sqlMode mode :=
    statement_rel (hrecord _ (.sqlMode mode)) fun d _ d' h => by
      cases h
      exact hact _ _ rfl
  characterSet characterSet collation :=
    statement_rel (hrecord _ (.characterSet characterSet collation)) fun d _ d' h => by
      cases h
      exact hact _ _ rfl
  create text h :=
    statement_rel (hrecord _ (.create text h)) fun d _ d' hd => hact _ _ (create_fixed hd)
  call := statement_rel (hrecord _ .call) fun d _ d' hd => hact _ _ (call_fixed hd)
  describe table :=
    statement_rel (hrecord _ (.describe table)) fun d _ d' hd => hact _ _ (describe_fixed hd)
  dropTemporary table :=
    statement_rel (hrecord _ (.dropTemporary table)) fun d _ d' hd =>
      hact _ _ (dropTemporary_fixed hd)

/-- What the database makes of SQL modes is not changed by any statement. -/
theorem permits_canonicalSqlMode (name : String) (texts : String → Prop) :
    Loading.Permits inMemory (Frame.view canonicalSqlMode) name texts :=
  permits (fun _ _ _ => rfl) fun d d' h => by
    have hmode := congrArg canonicalSqlMode h
    exact hmode

/-- All statements of a load are recorded, and nothing else is. -/
theorem permits_logged (name : String) (texts : String → Prop) :
    Loading.Permits inMemory (Frame.logged (Sent name texts)) name texts :=
  permits (fun sql h d => ⟨[sql], rfl, fun _ hx => List.mem_singleton.1 hx ▸ h⟩) fun d d' h => by
    have hstatements : d'.statements = d.statements := by
      have hall := congrArg statements h
      exact hall
    exact ⟨[], by rw [hstatements, List.append_nil], nofun⟩

end InMemory

end StoredRoutines
