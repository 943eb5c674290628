import StoredRoutines.Proofs.Batch.Preparation

/-!
# The in-memory database as a session

An operation that fails leaves nothing behind but its entry in the list of statements. After any
operations, the routines and the settings they were created under can be told from what the
database was given in advance and from the operations that succeeded.

## Main definitions

- `Operation` — an operation of a database with its arguments
- `InMemory.Configuration` — what the in-memory database is given in advance
- `InMemory.run`, `InMemory.successes` — the state after some operations, and those that succeeded
- `InMemory.Configuration.settings`, `InMemory.Configuration.Stands` — the settings and the routines
  that the successful operations amount to
-/

namespace StoredRoutines

namespace InMemory

/-- A drop removes the routine of its name if it is of its kind, and nothing else. -/
theorem get?_drop (kind : RoutineKind) (name : String) (d : InMemory) (n : String)
    (r : StoredRoutine) : (d.drop kind name).routines.get? n = some r ↔
      d.routines.get? n = some r ∧ (n = name → r.kind ≠ kind) := by
  have hkeep (hne : ∀ r', d.routines.get? name = some r' → r'.kind ≠ kind) :
      d.routines.get? n = some r ↔ d.routines.get? n = some r ∧ (n = name → r.kind ≠ kind) :=
    ⟨fun hr => ⟨hr, fun hn => hne r (hn ▸ hr)⟩, And.left⟩
  unfold drop
  split
  · next dropped hdropped =>
    split
    · next hkind =>
      rw [SortedMap.get?_erase]
      split
      · next hn =>
        subst hn
        rw [hdropped]
        refine ⟨nofun, ?_⟩
        rintro ⟨⟨⟩, hne⟩
        exact absurd hkind (hne rfl)
      · next hn => simp [hn]
    · next hkind =>
      refine hkeep fun r' hr' => ?_
      rw [hdropped] at hr'
      cases hr'
      exact hkind
  · next hnone => exact hkeep fun r' hr' => by simp [hnone] at hr'

end InMemory

/-- An operation of a database with its arguments. -/
inductive Operation where
  | execute (sql : String)
  | fetchRows (sql : String)
  | fetchRow (sql : String)
  | tableExists (table : String)
  | describeTable (table : String)
  | routineParameters (name : String)
  | routineInfo (name : String)
  | schemaColumns
  | dropRoutine (kind : RoutineKind) (name : String)
  | dropTemporaryTable (table : String)
  | callRoutine (name : String)
  | setSqlMode (sqlMode : String)
  | setCharacterSet (characterSet collation : String)
  deriving DecidableEq

namespace Operation

/-- What an operation answers. -/
def Answer : Operation → Type
  | fetchRows _ => List Row
  | fetchRow _ => Option Row
  | tableExists _ => Bool
  | describeTable _ => List TableColumn
  | routineParameters _ => List CatalogParameter
  | routineInfo _ => Option CatalogRoutine
  | schemaColumns => List SchemaColumn
  | _ => Unit

/-- An operation on a given database. -/
def on {σ : Type} (db : Database σ) : (op : Operation) → Query σ op.Answer
  | execute sql => db.execute sql
  | fetchRows sql => db.fetchRows sql
  | fetchRow sql => db.fetchRow sql
  | tableExists table => db.tableExists table
  | describeTable table => db.describeTable table
  | routineParameters name => db.routineParameters name
  | routineInfo name => db.routineInfo name
  | schemaColumns => db.schemaColumns
  | dropRoutine kind name => db.dropRoutine kind name
  | dropTemporaryTable table => db.dropTemporaryTable table
  | callRoutine name => db.callRoutine name
  | setSqlMode sqlMode => db.setSqlMode sqlMode
  | setCharacterSet characterSet collation => db.setCharacterSet characterSet collation

/-- The state of the in-memory database after an operation. -/
def after (op : Operation) (s : InMemory) : InMemory :=
  (op.on inMemory s).2

/-- Whether an operation on the in-memory database succeeds. -/
def succeeds (op : Operation) (s : InMemory) : Bool :=
  (op.on inMemory s).1.isOk

/-- The SQL mode that an operation asks for. -/
def sqlMode? : Operation → Option String
  | setSqlMode sqlMode => some sqlMode
  | _ => none

/-- The character set and the collation that an operation sets. -/
def characterSet? : Operation → Option (String × String)
  | setCharacterSet characterSet collation => some (characterSet, collation)
  | _ => none

/-- The operation is a statement that creates the routine `r` of a name, in a session with the
    given settings. -/
structure Creates (op : Operation) (settings : SessionSettings) (name : String)
    (r : StoredRoutine) : Prop where
  statement : op = .execute r.source
  signature : Signature.find? r.source = some ⟨r.kind, name⟩
  stamped : r.settings = settings

theorem Creates.unique {op : Operation} {settings : SessionSettings} {name : String}
    {r r' : StoredRoutine} (h : op.Creates settings name r) (h' : op.Creates settings name r') :
    r = r' := by
  obtain ⟨kind, source, stamp⟩ := r
  obtain ⟨kind', source', stamp'⟩ := r'
  obtain ⟨rfl, hfind, rfl⟩ := h
  obtain ⟨hsource, hfind', rfl⟩ := h'
  cases hsource
  rw [hfind] at hfind'
  cases hfind'
  rfl

/-! ### One operation -/

/-- Apart from the query for one row, an operation is a statement or a question that is not
    recorded. -/
theorem on_inMemory (op : Operation) :
    (∃ sql act, op.on inMemory = InMemory.statement sql act) ∨
      (∃ f, op.on inMemory = InMemory.query f) ∨ ∃ sql, op = .fetchRow sql := by
  cases op with
  | execute sql => exact .inl ⟨_, _, inMemory_execute sql⟩
  | fetchRows sql => exact .inl ⟨_, _, inMemory_fetchRows sql⟩
  | fetchRow sql => exact .inr (.inr ⟨sql, rfl⟩)
  | describeTable table => exact .inl ⟨_, _, inMemory_describeTable table⟩
  | dropRoutine kind name => exact .inl ⟨_, _, inMemory_dropRoutine kind name⟩
  | dropTemporaryTable table => exact .inl ⟨_, _, inMemory_dropTemporaryTable table⟩
  | callRoutine name => exact .inl ⟨_, _, inMemory_callRoutine name⟩
  | setSqlMode sqlMode => exact .inl ⟨_, _, inMemory_setSqlMode sqlMode⟩
  | setCharacterSet characterSet collation =>
    exact .inl ⟨_, _, inMemory_setCharacterSet characterSet collation⟩
  | _ => exact .inr (.inl ⟨_, rfl⟩)

theorem fetchRows_after (sql : String) (s : InMemory) :
    (fetchRows sql).after s = s.record sql := by
  rw [after, on, inMemory_fetchRows]
  rcases hs : InMemory.statement sql (fun s => .ok (InMemory.rows sql s, s)) s with ⟨e | rows, s'⟩
  · exact InMemory.statement_eq_error hs
  · cases InMemory.statement_eq_ok hs
    rfl

theorem fetchRow_after (sql : String) (s : InMemory) :
    (fetchRow sql).after s = s.record sql :=
  (InMemory.fetchRow_database sql s).trans (fetchRows_after sql s)

/-- An operation that fails has recorded a statement and done nothing else. -/
theorem after_of_error {op : Operation} {s : InMemory} {e : DatabaseError}
    (h : (op.on inMemory s).1 = .error e) : ∃ sql, op.after s = s.record sql := by
  rcases op.on_inMemory with ⟨sql, act, hop⟩ | ⟨f, hop⟩ | ⟨sql, rfl⟩
  · rw [after, hop]
    rw [hop] at h
    exact ⟨sql, InMemory.statement_eq_error (Prod.ext h rfl)⟩
  · rw [hop] at h
    cases h
  · exact ⟨sql, fetchRow_after sql s⟩

/-- The settings of a session after an operation that succeeds. -/
def sets (op : Operation) (canonical : Option String) (settings : SessionSettings) :
    SessionSettings where
  sqlMode := (op.sqlMode?.map canonical.getD).getD settings.sqlMode
  characterSet := (op.characterSet?.map Prod.fst).getD settings.characterSet
  collation := (op.characterSet?.map Prod.snd).getD settings.collation

/-- What an operation does to the routines and the settings if it succeeds. -/
structure Effect (op : Operation) (s s' : InMemory) : Prop where
  settings : s'.settings = op.sets s.canonicalSqlMode s.settings
  canonical : s'.canonicalSqlMode = s.canonicalSqlMode
  routines : ∀ name r, s'.routines.get? name = some r ↔
    (s.routines.get? name = some r ∧ op ≠ .dropRoutine r.kind name) ∨ op.Creates s.settings name r
  free : ∀ name r, op.Creates s.settings name r → s.routines.get? name = none

/-- An operation that neither executes a statement nor drops a routine has its effect if the
    routines stay as they are. -/
theorem Effect.of_routines {op : Operation} {s s' : InMemory}
    (hsettings : s'.settings = op.sets s.canonicalSqlMode s.settings)
    (hcanonical : s'.canonicalSqlMode = s.canonicalSqlMode) (hroutines : s'.routines = s.routines)
    (hexecute : ∀ sql, op ≠ .execute sql) (hdrop : ∀ kind name, op ≠ .dropRoutine kind name) :
    Effect op s s' where
  settings := hsettings
  canonical := hcanonical
  routines name r := by
    rw [hroutines]
    exact ⟨fun h => .inl ⟨h, hdrop _ _⟩,
      fun h => h.elim And.left fun hcreates => absurd hcreates.statement (hexecute _)⟩
  free name r h := absurd h.statement (hexecute _)

/-- An operation that leaves what is kept and sets the session as it should has its effect. -/
theorem Effect.of_kept {op : Operation} {s s' : InMemory} (hkept : s'.kept = s.kept)
    (hsets : op.sets s.canonicalSqlMode s.settings = s.settings)
    (hexecute : ∀ sql, op ≠ .execute sql) (hdrop : ∀ kind name, op ≠ .dropRoutine kind name) :
    Effect op s s' := by
  obtain ⟨hroutines, hsettings, hcanonical⟩ :
      s'.routines = s.routines ∧ s'.settings = s.settings ∧
        s'.canonicalSqlMode = s.canonicalSqlMode := by
    simpa [InMemory.kept] using hkept
  exact .of_routines (hsettings.trans hsets.symm) hcanonical hroutines hexecute hdrop

/-- A statement that may be carried out adds the routine that it creates. -/
theorem get?_created {routines : SortedMap StoredRoutine} {sql name : String}
    {settings : SessionSettings} {r : StoredRoutine} (h : InMemory.Creatable routines sql) :
    (InMemory.created routines sql settings).get? name = some r ↔
      routines.get? name = some r ∨ (execute sql).Creates settings name r := by
  unfold InMemory.created
  split
  · next hfind =>
    refine ⟨.inl, fun hr => hr.elim id ?_⟩
    rintro ⟨⟨⟩, hsignature, -⟩
    simp [hfind] at hsignature
  · next signature hfind =>
    rw [SortedMap.get?_insert]
    split
    · next hname =>
      subst hname
      constructor
      · rintro ⟨⟩
        exact .inr ⟨rfl, hfind, rfl⟩
      · rintro (hr | hcreates)
        · simp [h signature hfind] at hr
        · exact congrArg some (Creates.unique ⟨rfl, hfind, rfl⟩ hcreates)
    · next hname =>
      refine ⟨.inl, fun hr => hr.elim id ?_⟩
      rintro ⟨⟨⟩, hsignature, -⟩
      rw [hfind] at hsignature
      cases hsignature
      exact absurd rfl hname

theorem effect_execute {sql : String} {s s' : InMemory} {u : Unit}
    (h : inMemory.execute sql s = (.ok u, s')) : Effect (.execute sql) s s' := by
  obtain ⟨hcreatable, rfl⟩ := InMemory.create_eq_ok (InMemory.statement_eq_ok h)
  refine ⟨rfl, rfl, fun name r => ?_, fun name r hcreates => ?_⟩
  · rw [and_iff_left nofun]
    exact get?_created hcreatable
  · obtain ⟨⟨⟩, hsignature, -⟩ := hcreates
    exact hcreatable _ hsignature

theorem effect_dropRoutine {kind : RoutineKind} {name : String} {s s' : InMemory} {u : Unit}
    (h : inMemory.dropRoutine kind name s = (.ok u, s')) :
    Effect (.dropRoutine kind name) s s' := by
  rw [inMemory_dropRoutine] at h
  cases InMemory.statement_eq_ok h
  obtain ⟨hsettings, hcanonical⟩ := InMemory.drop_settings kind name
    (s.record (Database.dropStatement kind name))
  refine ⟨hsettings, hcanonical, fun n r => ?_, fun n r hcreates => nomatch hcreates.statement⟩
  rw [InMemory.get?_drop]
  constructor
  · rintro ⟨hr, hne⟩
    refine .inl ⟨hr, ?_⟩
    rintro ⟨⟩
    exact hne rfl rfl
  · rintro (⟨hr, hne⟩ | hcreates)
    · refine ⟨hr, ?_⟩
      rintro rfl rfl
      exact hne rfl
    · exact nomatch hcreates.statement

theorem effect_setSqlMode {sqlMode : String} {s s' : InMemory} {u : Unit}
    (h : inMemory.setSqlMode sqlMode s = (.ok u, s')) : Effect (.setSqlMode sqlMode) s s' := by
  rw [inMemory_setSqlMode] at h
  cases InMemory.statement_eq_ok h
  exact .of_routines rfl rfl rfl nofun nofun

theorem effect_setCharacterSet {characterSet collation : String} {s s' : InMemory} {u : Unit}
    (h : inMemory.setCharacterSet characterSet collation s = (.ok u, s')) :
    Effect (.setCharacterSet characterSet collation) s s' := by
  rw [inMemory_setCharacterSet] at h
  cases InMemory.statement_eq_ok h
  exact .of_routines rfl rfl rfl nofun nofun

/-- Every operation that succeeds has its effect. -/
theorem effect_of_ok {op : Operation} {s : InMemory} {answer : op.Answer}
    (h : (op.on inMemory s).1 = .ok answer) : Effect op s (op.after s) := by
  cases op with
  | execute sql => exact effect_execute (Prod.ext h rfl)
  | dropRoutine kind name => exact effect_dropRoutine (Prod.ext h rfl)
  | setSqlMode sqlMode => exact effect_setSqlMode (Prod.ext h rfl)
  | setCharacterSet characterSet collation => exact effect_setCharacterSet (Prod.ext h rfl)
  | fetchRows sql =>
    rw [fetchRows_after]
    exact .of_kept rfl rfl nofun nofun
  | fetchRow sql =>
    rw [fetchRow_after]
    exact .of_kept rfl rfl nofun nofun
  | describeTable table =>
    exact .of_kept ((Loading.asks_kept "").describe table s) rfl nofun nofun
  | callRoutine name => exact .of_kept ((Loading.asks_kept name).call s) rfl nofun nofun
  | dropTemporaryTable table =>
    exact .of_kept ((Loading.asks_kept "").dropTemporary table s) rfl nofun nofun
  | _ => exact .of_kept rfl rfl nofun nofun

end Operation

/-! ### All operations -/

theorem not_mem_concat {α : Type} {l : List α} {a x : α} : x ∉ l ++ [a] ↔ x ∉ l ∧ a ≠ x := by
  simp [eq_comm]

/-- If a list ends in `a`, a split of it at one of its members is at the end or before it. -/
theorem split_of_concat {α : Type} {l before after : List α} {a x : α}
    (h : l ++ [a] = before ++ x :: after) :
    (l = before ∧ a = x ∧ after = []) ∨
      ∃ rest, after = rest ++ [a] ∧ l = before ++ x :: rest := by
  rcases List.eq_nil_or_concat after with rfl | ⟨rest, last, rfl⟩
  · obtain ⟨hl, ha⟩ := List.append_inj' h rfl
    exact .inl ⟨hl, List.head_eq_of_cons_eq ha, rfl⟩
  · rw [List.concat_eq_append, ← List.cons_append, ← List.append_assoc] at h
    obtain ⟨hl, ha⟩ := List.append_inj' h rfl
    rw [List.concat_eq_append, ha]
    exact .inr ⟨rest, rfl, hl⟩

namespace InMemory

/-- What the in-memory database is given in advance. -/
structure Configuration where
  routines : SortedMap StoredRoutine
  parameters : SortedMap (List CatalogParameter)
  tables : SortedMap (List TableColumn)
  temporaryOnCall : SortedMap (String × List TableColumn)
  schemaColumns : List SchemaColumn
  canonicalSqlMode : Option String
  failing : List String

/-- The database before the first operation. -/
def Configuration.start (given : Configuration) : InMemory :=
  { empty with
    routines := given.routines
    parameters := given.parameters
    tables := given.tables
    temporaryOnCall := given.temporaryOnCall
    schemaColumns := given.schemaColumns
    canonicalSqlMode := given.canonicalSqlMode
    failing := given.failing }

/-- The state after some operations. -/
def run (s : InMemory) (ops : List Operation) : InMemory :=
  ops.foldl (fun s op => op.after s) s

/-- Those of the operations that succeed. -/
def successes (s : InMemory) : List Operation → List Operation
  | [] => []
  | op :: ops =>
    if op.succeeds s then op :: successes (op.after s) ops else successes (op.after s) ops

namespace Configuration

variable {given : Configuration} {done : List Operation} {s s' : InMemory}

/-- The settings of a session in which the operations have succeeded: the values set last, the SQL
    mode in the spelling of the database. -/
def settings (given : Configuration) (done : List Operation) : SessionSettings where
  sqlMode := ((done.filterMap Operation.sqlMode?).getLast?.map given.canonicalSqlMode.getD).getD ""
  characterSet := ((done.filterMap Operation.characterSet?).getLast?.map Prod.fst).getD ""
  collation := ((done.filterMap Operation.characterSet?).getLast?.map Prod.snd).getD ""

/-- The routine of a name, once the operations have succeeded: it was given in advance or created,
    and no routine of its name and kind has been dropped since. -/
inductive Stands (given : Configuration) (done : List Operation) (name : String)
    (r : StoredRoutine) : Prop where
  | given (h : given.routines.get? name = some r) (kept : .dropRoutine r.kind name ∉ done)
  | created (before : List Operation) (op : Operation) (after : List Operation)
      (split : done = before ++ op :: after) (h : op.Creates (given.settings before) name r)
      (kept : .dropRoutine r.kind name ∉ after)

theorem settings_concat (given : Configuration) (done : List Operation) (op : Operation) :
    given.settings (done ++ [op]) = op.sets given.canonicalSqlMode (given.settings done) := by
  unfold settings Operation.sets
  cases hmode : op.sqlMode? <;> cases hset : op.characterSet? <;>
    simp [List.filterMap_append, hmode, hset]

/-- A routine stands after one more operation if it stood and is not dropped, or if the operation
    creates it. -/
theorem stands_concat {op : Operation} {name : String} {r : StoredRoutine} :
    given.Stands (done ++ [op]) name r ↔
      (given.Stands done name r ∧ op ≠ .dropRoutine r.kind name) ∨
        op.Creates (given.settings done) name r := by
  constructor
  · intro h
    cases h with
    | given h kept =>
      obtain ⟨hdone, hop⟩ := not_mem_concat.1 kept
      exact .inl ⟨.given h hdone, hop⟩
    | created before x after split h kept =>
      rcases split_of_concat split with ⟨rfl, rfl, rfl⟩ | ⟨rest, rfl, hdone⟩
      · exact .inr h
      · obtain ⟨hrest, hop⟩ := not_mem_concat.1 kept
        exact .inl ⟨.created before x rest hdone h hrest, hop⟩
  · rintro (⟨h, hop⟩ | h)
    · cases h with
      | given h kept => exact .given h (not_mem_concat.2 ⟨kept, hop⟩)
      | created before x after split h kept =>
        exact .created before x (after ++ [op]) (by simp [split]) h (not_mem_concat.2 ⟨kept, hop⟩)
    · exact .created done op [] rfl h nofun

/-- The state of the database follows from the operations that have succeeded. A routine has only
    been created where none stood. -/
structure Explains (given : Configuration) (done : List Operation) (s : InMemory) : Prop where
  settings : s.settings = given.settings done
  canonical : s.canonicalSqlMode = given.canonicalSqlMode
  routines : ∀ name r, s.routines.get? name = some r ↔ given.Stands done name r
  free : ∀ before op after name r r', done = before ++ op :: after →
    op.Creates (given.settings before) name r → ¬ given.Stands before name r'

theorem explains_start (given : Configuration) : given.Explains [] given.start where
  settings := rfl
  canonical := rfl
  routines name r := by
    refine ⟨fun h => .given h nofun, fun h => ?_⟩
    cases h with
    | given h => exact h
    | created before op after split => simp at split
  free before op after _ _ _ hsplit := by simp at hsplit

/-- One more operation that succeeds is explained. -/
theorem Explains.step {op : Operation} (h : given.Explains done s)
    (heffect : op.Effect s s') : given.Explains (done ++ [op]) s' where
  settings := by rw [heffect.settings, settings_concat, h.settings, h.canonical]
  canonical := heffect.canonical.trans h.canonical
  routines name r := by rw [heffect.routines, stands_concat, h.routines, h.settings]
  free before x after name r r' hsplit hcreates hstands := by
    rcases split_of_concat hsplit with ⟨rfl, rfl, rfl⟩ | ⟨rest, rfl, hdone⟩
    · rw [← h.settings] at hcreates
      rw [← h.routines, heffect.free name r hcreates] at hstands
      cases hstands
    · exact h.free before x rest name r r' hdone hcreates hstands

theorem Explains.record {sql : String} (h : given.Explains done s) :
    given.Explains done (s.record sql) :=
  ⟨h.settings, h.canonical, h.routines, h.free⟩

/-- A list of operations is explained by those of them that succeed. -/
theorem Explains.run (ops : List Operation) (h : given.Explains done s) :
    given.Explains (done ++ s.successes ops) (s.run ops) := by
  induction ops generalizing done s with
  | nil => rwa [successes, List.append_nil]
  | cons op ops ih =>
    rw [successes]
    change given.Explains _ ((op.after s).run ops)
    cases hop : (op.on inMemory s).1 with
    | ok answer =>
      rw [if_pos (by rw [Operation.succeeds, hop]; rfl), ← List.singleton_append,
        ← List.append_assoc]
      exact ih (h.step (Operation.effect_of_ok hop))
    | error e =>
      obtain ⟨sql, hafter⟩ := Operation.after_of_error hop
      rw [if_neg (by rw [Operation.succeeds, hop]; nofun), hafter]
      exact ih h.record

/-- What stands is the routine that was created last. -/
theorem Explains.last_created (h : given.Explains done s) {before after : List Operation}
    {op : Operation} {name : String} {r r' : StoredRoutine} (hsplit : done = before ++ op :: after)
    (hcreates : op.Creates (given.settings before) name r)
    (hlast : ∀ next ∈ after, ∀ settings r'', ¬ next.Creates settings name r'')
    (hr' : s.routines.get? name = some r') : r' = r := by
  cases (h.routines name r').1 hr' with
  | given hgiven kept =>
    refine absurd (Stands.given hgiven fun hdrop => kept ?_)
      (h.free before op after name r r' hsplit hcreates)
    rw [hsplit]
    exact List.mem_append_left _ hdrop
  | created before' op' after' split' hcreates' kept' =>
    have hsame (hbefore : before' = before) (hop : op' = op) : r' = r := by
      subst hbefore hop
      exact hcreates'.unique hcreates
    -- A creation after `op` is not the last one, and one before `op` would have stood in its way.
    rcases List.append_eq_append_iff.1 (hsplit.symm.trans split') with
      ⟨middle, hbefore', hrest⟩ | ⟨middle, hbefore, hrest⟩
    · rcases List.cons_eq_append_iff.1 hrest with ⟨rfl, htail⟩ | ⟨between, rfl, hafter⟩
      · exact hsame (by simpa using hbefore') (List.cons.inj htail).1
      · exact absurd hcreates' (hlast op' (by simp [hafter]) _ _)
    · rcases List.cons_eq_append_iff.1 hrest with ⟨rfl, htail⟩ | ⟨between, rfl, hafter'⟩
      · exact hsame (by simpa using hbefore.symm) (List.cons.inj htail).1.symm
      · refine absurd (Stands.created before' op' between hbefore hcreates' fun hdrop => kept' ?_)
          (h.free before op after name r r' hsplit hcreates)
        rw [hafter']
        exact List.mem_append_left _ hdrop

end Configuration

/-- An operation that fails changes nothing but the list of statements. After any operations, a
    routine is there exactly if it was given in advance or created and has not been dropped under
    its own kind since, and it is the one created last, under the settings of that time. -/
theorem acts_as_session (given : Configuration) :
    (∀ (s : InMemory) (op : Operation) (e : DatabaseError), (op.on inMemory s).1 = .error e →
      { op.after s with statements := s.statements } = s) ∧
    ∀ ops : List Operation,
      (∀ name r, (given.start.run ops).routines.get? name = some r ↔
        given.Stands (given.start.successes ops) name r) ∧
      ∀ before op after name r r', given.start.successes ops = before ++ op :: after →
        op.Creates (given.settings before) name r →
        (∀ next ∈ after, ∀ settings r'', ¬ next.Creates settings name r'') →
        (given.start.run ops).routines.get? name = some r' → r' = r := by
  refine ⟨fun s op e h => ?_, fun ops => ?_⟩
  · obtain ⟨sql, hafter⟩ := Operation.after_of_error h
    rw [hafter]
    rfl
  · have hexplains := (Configuration.explains_start given).run ops
    exact ⟨hexplains.routines, fun _ _ _ _ _ _ => hexplains.last_created⟩

/-! ### A database with a procedure that it does not drop -/

/-- A database with an audit that cannot be dropped, which words the SQL mode in its own way. -/
def ledger : Configuration where
  routines := .ofList [("audit", ⟨.procedure, "", ⟨"ANSI", "utf8mb4", "utf8mb4_bin"⟩⟩)]
  parameters := .empty
  tables := .empty
  temporaryOnCall := .empty
  schemaColumns := []
  canonicalSqlMode := some "ANSI_QUOTES"
  failing := ["drop procedure if exists audit"]

/-- The function that is created. -/
def total : String := "create function total() returns int return 1"

/-- The settings under which the function is created. -/
def beforeTotal : List Operation :=
  [.setSqlMode "ANSI", .setCharacterSet "latin1" "latin1_bin"]

/-- Later settings, a drop under the wrong kind, and a call. -/
def afterTotal : List Operation :=
  [.setCharacterSet "utf8mb4" "utf8mb4_bin", .dropRoutine .procedure "total", .callRoutine "total"]

/-- A function is created in other settings than those that the session ends with. A procedure of
    its name and a drop are refused. -/
def ledgerOps : List Operation :=
  beforeTotal ++ .execute total :: .execute "create procedure total() begin end" ::
    .dropRoutine .procedure "audit" :: afterTotal

/-- A drop that fails leaves the ledger as it is. In the end the total stands as it was created,
    under the settings of that time, and the procedure that cannot be dropped is still there. -/
theorem acts_as_session_ledger :
    (∃ e, ((Operation.dropRoutine .procedure "audit").on inMemory ledger.start).1 = .error e ∧
      { (Operation.dropRoutine .procedure "audit").after ledger.start with
        statements := [] } = ledger.start) ∧
    ledger.start.successes ledgerOps = beforeTotal ++ .execute total :: afterTotal ∧
    (ledger.start.run ledgerOps).routines.get? "total" =
      some ⟨.function, total, ⟨"ANSI_QUOTES", "latin1", "latin1_bin"⟩⟩ ∧
    (ledger.start.run ledgerOps).routines.get? "audit" =
      some ⟨.procedure, "", ⟨"ANSI", "utf8mb4", "utf8mb4_bin"⟩⟩ := by
  obtain ⟨hfailed, hrun⟩ := acts_as_session ledger
  obtain ⟨hstands, hlast⟩ := hrun ledgerOps
  have hrefused : ((Operation.dropRoutine .procedure "audit").on inMemory ledger.start).1 =
      .error (.rejected "drop procedure if exists audit" "drop procedure if exists audit") := rfl
  have hsuccesses : ledger.start.successes ledgerOps =
      beforeTotal ++ .execute total :: afterTotal := by
    decide +kernel
  have hcreates : (Operation.execute total).Creates (ledger.settings beforeTotal) "total"
      ⟨.function, total, ⟨"ANSI_QUOTES", "latin1", "latin1_bin"⟩⟩ :=
    ⟨rfl, by decide +kernel, rfl⟩
  have hnone : ∀ next ∈ afterTotal, ∀ settings r, ¬ next.Creates settings "total" r := by
    rintro next hnext settings r ⟨rfl, -, -⟩
    simp [afterTotal] at hnext
  obtain ⟨r, hr⟩ : ∃ r, (ledger.start.run ledgerOps).routines.get? "total" = some r :=
    Option.isSome_iff_exists.1 (by decide +kernel)
  refine ⟨⟨_, hrefused, hfailed _ _ _ hrefused⟩, hsuccesses, ?_,
    (hstands _ _).2 (.given (by decide +kernel) (by rw [hsuccesses]; decide))⟩
  rw [hr, hlast _ _ _ "total" _ r hsuccesses hcreates hnone hr]

end InMemory

end StoredRoutines
