import Mathlib.Tactic.MkIffOfInductiveProp
import StoredRoutines.Proofs.Load.Statements

/-!
# Loads side by side

A load asks a database for the routine of its own name only. On two databases that hold the same
routine of this name it goes the same way, and on neither does it touch another routine or leave a
temporary table behind.

## Main definitions

- `Loading.Answers`, `Loading.Coupled` — an operation, or a computation, goes the same way on
  related states
- `InMemory.Paired` — two states with the same routine of a name
- `Proper` — what a source must not do to others

## Main results

- `Loading.coupled_loadSource` — a load does if the operations it uses do
- `Loading.coupled_eq_loadSource` — no load depends on the notices so far
- `InMemory.coupled_loadSource` — the load of a proper source goes the same way on both sides
-/

namespace StoredRoutines

namespace Loading

variable {σ ε α β : Type}

/-- On related states an operation gives one answer, and the states that it leaves are related in
    the way that goes with a success or a failure. -/
def Answers (P Q E : σ → σ → Prop) (query : Query σ α) : Prop :=
  ∀ d e, P d e →
    (∃ a d' e', query d = (.ok a, d') ∧ query e = (.ok a, e') ∧ Q d' e') ∨
      ∃ c d' e', query d = (.error c, d') ∧ query e = (.error c, e') ∧ E d' e'

/-- On sessions with related databases a computation ends in one way, and the databases that it
    leaves are related. The notices are of no importance. -/
def Coupled (P Q E : σ → σ → Prop) (m : Loading σ ε α) : Prop :=
  ∀ s t : Session σ, P s.database t.database →
    (∃ a s' t', m s = .ok a s' ∧ m t = .ok a t' ∧ Q s'.database t'.database) ∨
      ∃ e s' t', m s = .error e s' ∧ m t = .error e t' ∧ E s'.database t'.database

namespace Coupled

variable {P Q R E : σ → σ → Prop}

theorem pure (a : α) : Coupled P P E (pure a : Loading σ ε α) :=
  fun s t h => .inl ⟨a, s, t, rfl, rfl, h⟩

theorem throw (e : ε) (hE : ∀ a b, P a b → E a b) : Coupled P Q E (throw e : Loading σ ε α) :=
  fun s t h => .inr ⟨e, s, t, rfl, rfl, hE _ _ h⟩

theorem notify (notices : List Notice) : Coupled P P E (notify notices : Loading σ ε Unit) :=
  fun _ _ h => .inl ⟨(), _, _, rfl, rfl, h⟩

/-- Two coupled steps behind each other are coupled. -/
theorem bind {m : Loading σ ε α} {f : α → Loading σ ε β} (hm : Coupled P Q E m)
    (hf : ∀ a, Coupled Q R E (f a)) : Coupled P R E (m >>= f) := by
  intro s t h
  rcases hm s t h with ⟨a, s', t', hs, ht, h'⟩ | ⟨e, s', t', hs, ht, h'⟩
  · rw [bind_of_ok hs, bind_of_ok ht]
    exact hf a s' t' h'
  · exact .inr ⟨e, s', t', bind_of_error hs, bind_of_error ht, h'⟩

/-- What follows an outcome only has to be looked at if the outcome is a success. -/
theorem ofExcept_bind {outcome : Except ε α} {f : α → Loading σ ε β}
    (hE : ∀ a b, P a b → E a b) (hf : ∀ a, outcome = .ok a → Coupled P Q E (f a)) :
    Coupled P Q E (ofExcept outcome >>= f) := by
  cases outcome with
  | ok a => exact hf a rfl
  | error e => exact fun s t h => .inr ⟨e, s, t, rfl, rfl, hE _ _ h⟩

theorem ofExcept (outcome : Except ε α) (hE : ∀ a b, P a b → E a b) :
    Coupled P P E (ofExcept outcome : Loading σ ε α) := by
  cases outcome with
  | ok a => exact .pure a
  | error e => exact .throw e hE

theorem ask {failed : DatabaseError → ε} {query : Query σ α} (h : Answers P Q E query) :
    Coupled P Q E (ask failed query) := by
  intro s t hst
  unfold Loading.ask
  rcases h _ _ hst with ⟨a, d, e, hd, he, hde⟩ | ⟨c, d, e, hd, he, hde⟩
  · rw [hd, he]
    exact .inl ⟨a, _, _, rfl, rfl, hde⟩
  · rw [hd, he]
    exact .inr ⟨failed c, _, _, rfl, rfl, hde⟩

theorem attempt {query : Query σ α} (h : Answers P Q Q query) :
    Coupled P Q E (attempt query : Loading σ ε (Except DatabaseError α)) := by
  intro s t hst
  unfold Loading.attempt
  rcases h _ _ hst with ⟨a, d, e, hd, he, hde⟩ | ⟨c, d, e, hd, he, hde⟩
  · rw [hd, he]
    exact .inl ⟨.ok a, _, _, rfl, rfl, hde⟩
  · rw [hd, he]
    exact .inl ⟨.error c, _, _, rfl, rfl, hde⟩

end Coupled

/-! ### The parts of a load -/

section

variable {db : Database σ} {P Q R : σ → σ → Prop} {n : String}

/-- The description of a table that a call has created is coupled if its three questions are
    answered alike. -/
theorem coupled_describeCreated {table : String} (hcall : Answers P Q P (db.callRoutine n))
    (hdescribe : Answers Q Q Q (db.describeTable table))
    (hdrop : Answers Q P P (db.dropTemporaryTable table)) :
    Coupled P P P (describeCreated db n table) := by
  refine .bind (.ask hcall) fun _ => ?_
  refine .bind (.attempt hdescribe) fun described => ?_
  refine .bind (.attempt hdrop) fun dropped => ?_
  rcases described with e | columns <;> rcases dropped with e' | u
  · exact .bind (.notify _) fun _ => .pure _
  · exact .pure _
  · exact .throw _ fun _ _ => id
  · exact .pure _

theorem coupled_checkColumns (table : String) (listed : List String)
    (described : Except DatabaseError (List TableColumn)) :
    Coupled P P P (checkColumns n table listed described) := by
  cases described with
  | error e => exact .throw _ fun _ _ => id
  | ok columns =>
    unfold checkColumns
    by_cases hl : listed.length = columns.length
    · simp only [hl, if_true]
      exact .pure _
    · simp only [hl, if_false]
      exact .throw _ fun _ _ => id

/-- The columns are resolved alike if the tables are found, created and described alike. -/
theorem coupled_resolveColumns {d : Designation}
    (hexists : ∀ table ∈ d.table?, Answers P P P (db.tableExists table))
    (hdescribe : ∀ table ∈ d.table?, Answers P P P (db.describeTable table))
    (hcreated : ∀ table ∈ d.table?, Coupled P P P (describeCreated db n table)) :
    Coupled P P P (resolveColumns db n d) := by
  cases d with
  | bulkInsert table listed =>
    rw [resolveColumns_bulkInsert]
    refine .bind (.ask (hexists table rfl)) fun permanent => ?_
    refine .bind ?_ (coupled_checkColumns table listed)
    cases permanent with
    | true => exact .attempt (hdescribe table rfl)
    | false => exact hcreated table rfl
  | _ => exact .pure _

/-- The reconciliation is coupled if columns and parameters are answered alike. -/
theorem coupled_reconcile {parsed : ParsedRoutine}
    (hcolumns : Coupled P P P (resolveColumns db parsed.name parsed.directives.designation))
    (hparameters : Answers P P P (db.routineParameters parsed.name)) :
    Coupled P P P (reconcile db parsed) := by
  refine .bind hcolumns fun shape => ?_
  refine .bind ?_ fun parameters => .bind (.notify _) fun _ => .pure _
  exact .bind (.ask hparameters) fun catalog => .ofExcept _ fun _ _ => id

/-- The databases may differ in another way while the session is being set. -/
theorem coupled_install {source : Source} {parsed : ParsedRoutine} {context : LoadContext}
    (hdrop : ∀ kind, Answers P P P (db.dropRoutine kind parsed.name))
    (hmode : Answers P Q P (db.setSqlMode context.session.sqlMode))
    (hcharacters : Answers Q R P
      (db.setCharacterSet context.session.characterSet context.session.collation))
    (hexecute : Answers R P P (db.execute (source.statement parsed))) :
    Coupled P P P (install db source parsed context) := by
  have hset : Coupled P P P ((do
      ask (.loadFailed parsed.name) (db.setSqlMode context.session.sqlMode)
      ask (.loadFailed parsed.name)
        (db.setCharacterSet context.session.characterSet context.session.collation)
      ask (.loadFailed parsed.name) (db.execute (source.statement parsed))) :
        Loading σ LoadError Unit) :=
    .bind (.ask hmode) fun _ => .bind (.ask hcharacters) fun _ => .ask hexecute
  unfold install
  cases context.catalog with
  | none => exact hset
  | some previous => exact .bind (.ask (hdrop previous.kind)) fun _ => hset

/-- A load is coupled if its installation and its reconciliation are. -/
theorem coupled_routine {source : Source} {context : LoadContext}
    (hload : ∀ parsed, source.parse context.table = .ok parsed →
      Coupled P P P (install db source parsed context) ∧ Coupled P P P (reconcile db parsed)) :
    Coupled P P P (routine db source context) := by
  refine .bind (.notify _) fun _ => .ofExcept_bind (fun _ _ => id) fun parsed hparse => ?_
  obtain ⟨hinstall, hreconcile⟩ := hload parsed hparse
  exact .bind (.notify _) fun _ => .bind hinstall fun _ => .bind hreconcile fun r => .pure _

/-- A source is loaded alike if the routine is looked up and loaded alike. -/
theorem coupled_loadSource {setting : RunSetting} {path : Path}
    (hinfo : Answers P P P (db.routineInfo path.stem))
    (hroutine : ∀ source, readSource setting.files path = .ok source → ∀ catalog,
      Coupled P P P (routine db source ⟨setting.table, setting.session, catalog⟩)) (store : Store) :
    Coupled P P P (loadSource db setting store path) := by
  refine .ofExcept_bind (fun _ _ => id) fun modified _ => ?_
  refine .bind (.ask hinfo) fun catalog => ?_
  cases reloadReason? (store.get? path.stem) modified setting.table catalog setting.session with
  | none => exact .pure _
  | some reason =>
    refine .ofExcept_bind (fun _ _ => id) fun source hread => ?_
    exact .bind (hroutine source hread catalog) fun record => .pure _

end

/-! ### Sessions that differ in their notices -/

theorem answers_eq (query : Query σ α) : Answers Eq Eq Eq query := by
  rintro d _ rfl
  rcases hd : query d with ⟨c | a, d'⟩
  · exact .inr ⟨c, d', d', rfl, rfl, rfl⟩
  · exact .inl ⟨a, d', d', rfl, rfl, rfl⟩

/-- No load depends on the notices so far. -/
theorem coupled_eq_loadSource (db : Database σ) (setting : RunSetting) (store : Store)
    (path : Path) : Coupled Eq Eq Eq (loadSource db setting store path) := by
  refine coupled_loadSource (answers_eq _) (fun source _ catalog => ?_) store
  refine coupled_routine fun parsed _ => ⟨?_, ?_⟩
  · exact coupled_install (fun _ => answers_eq _) (answers_eq _) (answers_eq _) (answers_eq _)
  · refine coupled_reconcile ?_ (answers_eq _)
    exact coupled_resolveColumns (fun _ _ => answers_eq _) (fun _ _ => answers_eq _) fun _ _ =>
      coupled_describeCreated (answers_eq _) (answers_eq _) (answers_eq _)

end Loading

/-! ### Two in-memory databases -/

/-- What has been inserted under a new key is erased without a trace. -/
theorem SortedMap.erase_insert {α : Type} {m : SortedMap α} {k : String} (v : α)
    (h : m.get? k = none) : (m.insert k v).erase k = m := by
  refine SortedMap.ext_get? fun k' => ?_
  rw [SortedMap.get?_erase, SortedMap.get?_insert]
  split
  · next hk => rw [hk, h]
  · rfl

namespace InMemory

open Loading (Answers)

variable {α : Type}

section

variable {sql : String} {act : InMemory → Except DatabaseError (α × InMemory)} {d d' : InMemory}

theorem statement_of_rejected {c : DatabaseError} (h : d.rejection? sql = some c) :
    statement sql act d = (.error c, d.record sql) := by
  have hrecorded : { d with statements := d.statements ++ [sql] }.rejection? sql = some c := h
  simp only [statement, hrecorded]
  rfl

theorem statement_of_ok {a : α} (h : d.rejection? sql = none)
    (hact : act (d.record sql) = .ok (a, d')) : statement sql act d = (.ok a, d') := by
  have hrecorded : { d with statements := d.statements ++ [sql] }.rejection? sql = none := h
  have hdone : act { d with statements := d.statements ++ [sql] } = .ok (a, d') := hact
  simp only [statement, hrecorded, hdone]

theorem statement_of_error {c : DatabaseError} (h : d.rejection? sql = none)
    (hact : act (d.record sql) = .error c) : statement sql act d = (.error c, d.record sql) := by
  have hrecorded : { d with statements := d.statements ++ [sql] }.rejection? sql = none := h
  have hdone : act { d with statements := d.statements ++ [sql] } = .error c := hact
  simp only [statement, hrecorded, hdone]
  rfl

end

/-- What no statement changes. -/
def given (d : InMemory) : InMemory :=
  { d.fixed with statements := [] }

/-- No temporary table is there. -/
def Clean (temporaryTables : SortedMap (List TableColumn)) : Prop :=
  temporaryTables = .empty

/-- Two states that hold the same routine of a name, and otherwise what `d₀` and `e₀` hold. Their
    temporary tables are the same and have the property `T`. -/
structure Paired (n : String) (T : SortedMap (List TableColumn) → Prop) (d₀ e₀ d e : InMemory) :
    Prop where
  routine : d.routines.get? n = e.routines.get? n
  left : ∀ m, m ≠ n → d.routines.get? m = d₀.routines.get? m
  right : ∀ m, m ≠ n → e.routines.get? m = e₀.routines.get? m
  givenLeft : d.given = d₀.given
  givenRight : e.given = d₀.given
  temporary : d.temporaryTables = e.temporaryTables
  temporaryLeft : T d.temporaryTables

/-- How two states are related between two loads. -/
def Alike (n : String) (d₀ e₀ : InMemory) : InMemory → InMemory → Prop :=
  Paired n Clean d₀ e₀

namespace Paired

variable {n : String} {T T' : SortedMap (List TableColumn) → Prop} {d₀ e₀ d e : InMemory}

theorem given_eq (h : Paired n T d₀ e₀ d e) {β : Type} {f : InMemory → β}
    (hf : ∀ d : InMemory, f d = f d.given) : f d = f d₀ ∧ f e = f d₀ := by
  rw [hf d, hf e, hf d₀, h.givenLeft, h.givenRight]
  exact ⟨rfl, rfl⟩

theorem record (h : Paired n T d₀ e₀ d e) (sql : String) :
    Paired n T d₀ e₀ (d.record sql) (e.record sql) :=
  ⟨h.routine, h.left, h.right, h.givenLeft, h.givenRight, h.temporary, h.temporaryLeft⟩

/-- The same statements are refused. -/
theorem rejection? (h : Paired n T d₀ e₀ d e) (sql : String) :
    d.rejection? sql = d₀.rejection? sql ∧ e.rejection? sql = d₀.rejection? sql :=
  h.given_eq (f := fun d => d.rejection? sql) fun _ => rfl

theorem tables (h : Paired n T d₀ e₀ d e) : d.tables = e.tables := by
  obtain ⟨hd, he⟩ := h.given_eq (f := InMemory.tables) fun _ => rfl
  exact hd.trans he.symm

theorem contains (h : Paired n T d₀ e₀ d e) : d.routines.contains n = e.routines.contains n := by
  unfold SortedMap.contains
  rw [h.routine]

theorem parametersOf (h : Paired n T d₀ e₀ d e) (m : String) :
    d.parametersOf m = e.parametersOf m := by
  obtain ⟨hd, he⟩ := h.given_eq (f := fun d => d.parametersOf m) fun _ => rfl
  exact hd.trans he.symm

theorem catalogEntry (h : Paired n T d₀ e₀ d e) : d.catalogEntry n = e.catalogEntry n := by
  unfold InMemory.catalogEntry
  rw [h.routine, h.parametersOf n]

end Paired

section

variable {n : String} {T : SortedMap (List TableColumn) → Prop} {d₀ e₀ : InMemory}
  {P Q E : InMemory → InMemory → Prop}

/-- A statement goes the same way on related states if it is recorded on both and carried out in
    the same way. -/
theorem answers_statement {sql : String} {act : InMemory → Except DatabaseError (α × InMemory)}
    (hpaired : ∀ d e, P d e → Paired n T d₀ e₀ d e)
    (hrecord : ∀ d e, P d e → E (d.record sql) (e.record sql))
    (hact : ∀ d e, P d e →
      (∃ a d' e', act (d.record sql) = .ok (a, d') ∧ act (e.record sql) = .ok (a, e') ∧ Q d' e') ∨
        ∃ c, act (d.record sql) = .error c ∧ act (e.record sql) = .error c) :
    Answers P Q E (statement sql act) := by
  intro d e h
  obtain ⟨hd, he⟩ := (hpaired d e h).rejection? sql
  cases hrejection : d₀.rejection? sql with
  | some c =>
    rw [hrejection] at hd he
    exact .inr ⟨c, _, _, statement_of_rejected hd, statement_of_rejected he, hrecord d e h⟩
  | none =>
    rw [hrejection] at hd he
    rcases hact d e h with ⟨a, d', e', hdone, hdone', hq⟩ | ⟨c, hfailed, hfailed'⟩
    · exact .inl ⟨a, d', e', statement_of_ok hd hdone, statement_of_ok he hdone', hq⟩
    · exact .inr ⟨c, _, _, statement_of_error hd hfailed, statement_of_error he hfailed',
        hrecord d e h⟩

/-- A query whose answer depends on what is alike only is answered alike. -/
theorem answers_query {f : InMemory → α} (hf : ∀ d e, P d e → f d = f e) :
    Answers P P E (query f) := by
  intro d e h
  refine .inl ⟨f d, d, e, rfl, ?_, h⟩
  rw [query, hf d e h]

end

/-! ### The operations of a load -/

section

variable {n : String} {d₀ e₀ : InMemory}

theorem answers_routineInfo :
    Answers (Alike n d₀ e₀) (Alike n d₀ e₀) (Alike n d₀ e₀)
      (inMemory.routineInfo n) :=
  answers_query fun _ _ h => h.catalogEntry

theorem answers_tableExists (table : String) :
    Answers (Alike n d₀ e₀) (Alike n d₀ e₀) (Alike n d₀ e₀)
      (inMemory.tableExists table) := by
  refine answers_query fun d e h => ?_
  rw [h.tables]

theorem answers_routineParameters :
    Answers (Alike n d₀ e₀) (Alike n d₀ e₀) (Alike n d₀ e₀)
      (inMemory.routineParameters n) := by
  refine answers_query fun d e h => ?_
  rw [h.contains, h.parametersOf n]

theorem Alike.drop {d e : InMemory} (h : Alike n d₀ e₀ d e) (kind : RoutineKind) :
    Alike n d₀ e₀ (d.drop kind n) (e.drop kind n) := by
  have herased : Alike n d₀ e₀ { d with routines := d.routines.erase n }
      { e with routines := e.routines.erase n } := by
    refine ⟨?_, fun m hm => ?_, fun m hm => ?_, h.givenLeft, h.givenRight, h.temporary,
      h.temporaryLeft⟩
    · simp only [SortedMap.get?_erase, if_true]
    · simp only [SortedMap.get?_erase, if_neg hm]
      exact h.left m hm
    · simp only [SortedMap.get?_erase, if_neg hm]
      exact h.right m hm
  unfold InMemory.drop
  rw [h.routine]
  cases e.routines.get? n with
  | none => exact h
  | some r =>
    by_cases hkind : r.kind = kind
    · simp only [if_pos hkind]
      exact herased
    · simp only [if_neg hkind]
      exact h

theorem answers_dropRoutine (kind : RoutineKind) :
    Answers (Alike n d₀ e₀) (Alike n d₀ e₀) (Alike n d₀ e₀)
      (inMemory.dropRoutine kind n) := by
  rw [inMemory_dropRoutine]
  refine answers_statement (fun _ _ h => h) (fun _ _ h => h.record _) fun d e h => ?_
  exact .inl ⟨(), _, _, rfl, rfl, Alike.drop (h.record _) kind⟩

/-- The settings of a session are the same on both sides once both parts have been set. -/
theorem answers_setSqlMode (mode : String) :
    Answers (Alike n d₀ e₀)
      (fun d e => Alike n d₀ e₀ d e ∧ d.settings.sqlMode = e.settings.sqlMode)
      (Alike n d₀ e₀) (inMemory.setSqlMode mode) := by
  rw [inMemory_setSqlMode]
  refine answers_statement (fun _ _ h => h) (fun _ _ h => h.record _) fun d e h => ?_
  obtain ⟨hd, he⟩ := h.given_eq (f := InMemory.canonicalSqlMode) fun _ => rfl
  refine .inl ⟨(), _, _, rfl, rfl, ?_, ?_⟩
  · exact ⟨h.routine, h.left, h.right, h.givenLeft, h.givenRight, h.temporary, h.temporaryLeft⟩
  · show d.canonicalSqlMode.getD mode = e.canonicalSqlMode.getD mode
    rw [hd, he]

/-- The character set is set alike, and with the SQL mode the settings are the same. -/
theorem answers_setCharacterSet (characterSet collation : String) :
    Answers (fun d e => Alike n d₀ e₀ d e ∧ d.settings.sqlMode = e.settings.sqlMode)
      (fun d e => Alike n d₀ e₀ d e ∧ d.settings = e.settings)
      (Alike n d₀ e₀) (inMemory.setCharacterSet characterSet collation) := by
  rw [inMemory_setCharacterSet]
  refine answers_statement (fun _ _ h => h.1) (fun _ _ h => h.1.record _) fun d e h => ?_
  obtain ⟨h, hmode⟩ := h
  refine .inl ⟨(), _, _, rfl, rfl, ?_, ?_⟩
  · exact ⟨h.routine, h.left, h.right, h.givenLeft, h.givenRight, h.temporary, h.temporaryLeft⟩
  · show SessionSettings.mk d.settings.sqlMode characterSet collation = _
    rw [hmode]
    rfl

/-- A statement that declares the routine of the name does not touch another one. -/
theorem answers_execute {sql : String} {kind : RoutineKind}
    (hfind : Signature.find? sql = some ⟨kind, n⟩) :
    Answers (fun d e => Alike n d₀ e₀ d e ∧ d.settings = e.settings)
      (Alike n d₀ e₀) (Alike n d₀ e₀) (inMemory.execute sql) := by
  rw [inMemory_execute]
  refine answers_statement (fun _ _ h => h.1) (fun _ _ h => h.1.record _) fun d e h => ?_
  obtain ⟨h, hsettings⟩ := h
  have hcontains : (d.record sql).routines.contains n = (e.record sql).routines.contains n :=
    h.contains
  unfold create
  simp only [hfind, hcontains]
  cases (e.record sql).routines.contains n with
  | true => exact .inr ⟨_, rfl, rfl⟩
  | false =>
    refine .inl ⟨(), _, _, rfl, rfl, ?_, fun m hm => ?_, fun m hm => ?_, h.givenLeft, h.givenRight,
      h.temporary, h.temporaryLeft⟩
    · have hsame : (d.record sql).settings = (e.record sql).settings := hsettings
      simp only [SortedMap.get?_insert, if_true, hsame]
    · simp only [SortedMap.get?_insert, if_neg hm]
      exact h.left m hm
    · simp only [SortedMap.get?_insert, if_neg hm]
      exact h.right m hm

/-- A table is described alike, and the temporary tables stay what they are. -/
theorem answers_describeTable {T : SortedMap (List TableColumn) → Prop} (table : String) :
    Answers (Paired n T d₀ e₀) (Paired n T d₀ e₀) (Paired n T d₀ e₀)
      (inMemory.describeTable table) := by
  rw [inMemory_describeTable]
  refine answers_statement (fun _ _ h => h) (fun _ _ h => h.record _) fun d e h => ?_
  have htemporary : (d.record ("show columns from " ++ table)).temporaryTables =
      (e.record ("show columns from " ++ table)).temporaryTables := h.temporary
  have htables : (d.record ("show columns from " ++ table)).tables =
      (e.record ("show columns from " ++ table)).tables := h.tables
  unfold describe
  simp only [htemporary, htables]
  cases ((e.record ("show columns from " ++ table)).temporaryTables.get? table).or
    ((e.record ("show columns from " ++ table)).tables.get? table) with
  | some columns => exact .inl ⟨columns, _, _, rfl, rfl, h.record _⟩
  | none => exact .inr ⟨_, rfl, rfl⟩

theorem clean_erase_insert (table : String) (columns : List TableColumn) :
    Clean ((SortedMap.empty.insert table columns).erase table) :=
  SortedMap.erase_insert columns rfl

/-- A call leaves no temporary table but the given one. -/
theorem answers_callRoutine {table : String}
    (hcreates : ∀ created ∈ d₀.temporaryOnCall.get? n, created.1 = table) :
    Answers (Alike n d₀ e₀) (Paired n (fun T => Clean (T.erase table)) d₀ e₀)
      (Alike n d₀ e₀) (inMemory.callRoutine n) := by
  rw [inMemory_callRoutine]
  refine answers_statement (fun _ _ h => h) (fun _ _ h => h.record _) fun d e h => ?_
  -- whether the call creates a table depends on what was given in advance only
  obtain ⟨hd, he⟩ := h.given_eq (f := fun d => d.temporaryOnCall.get? n) fun _ => rfl
  have hcontains : (d.record (Database.callStatement n)).routines.contains n =
    (e.record (Database.callStatement n)).routines.contains n := h.contains
  have hleft : (d.record (Database.callStatement n)).temporaryOnCall.get? n =
    d₀.temporaryOnCall.get? n := hd
  have hright : (e.record (Database.callStatement n)).temporaryOnCall.get? n =
    d₀.temporaryOnCall.get? n := he
  have hclean : d.temporaryTables = .empty := h.temporaryLeft
  unfold call
  simp only [hcontains, hleft, hright]
  cases (e.record (Database.callStatement n)).routines.contains n with
  | false => exact .inr ⟨_, rfl, rfl⟩
  | true =>
    cases hcreated : d₀.temporaryOnCall.get? n with
    | none =>
      refine .inl ⟨(), _, _, rfl, rfl, h.routine, h.left, h.right, h.givenLeft, h.givenRight,
        h.temporary, ?_⟩
      -- nothing has been created, and the temporary tables were empty before
      show Clean (d.temporaryTables.erase table)
      rw [hclean]
      exact SortedMap.erase_of_get?_eq_none rfl
    | some created =>
      obtain ⟨created, columns⟩ := created
      obtain rfl : created = table := hcreates _ hcreated
      refine .inl ⟨(), _, _, rfl, rfl, h.routine, h.left, h.right, h.givenLeft, h.givenRight,
        ?_, ?_⟩
      · show d.temporaryTables.insert _ _ = e.temporaryTables.insert _ _
        rw [h.temporary]
      · -- the created table is the one that is erased
        show Clean ((d.temporaryTables.insert created columns).erase created)
        rw [hclean]
        exact clean_erase_insert created columns

/-- The temporary table is dropped alike, and none is left. -/
theorem answers_dropTemporaryTable {table : String}
    (hdrops : d₀.rejection? (Database.dropTemporaryStatement table) = none) :
    Answers (Paired n (fun T => Clean (T.erase table)) d₀ e₀) (Alike n d₀ e₀)
      (Alike n d₀ e₀) (inMemory.dropTemporaryTable table) := by
  rw [inMemory_dropTemporaryTable]
  intro d e h
  obtain ⟨hd, he⟩ := h.rejection? (Database.dropTemporaryStatement table)
  rw [hdrops] at hd he
  have hclean : Clean (d.temporaryTables.erase table) := h.temporaryLeft
  cases hcontains : e.temporaryTables.contains table with
  | true =>
    have hleft : dropTemporary table (d.record (Database.dropTemporaryStatement table)) =
        .ok ((), { d.record (Database.dropTemporaryStatement table) with
          temporaryTables := d.temporaryTables.erase table }) :=
      if_pos (by rw [← h.temporary] at hcontains; exact hcontains)
    have hright : dropTemporary table (e.record (Database.dropTemporaryStatement table)) =
        .ok ((), { e.record (Database.dropTemporaryStatement table) with
          temporaryTables := e.temporaryTables.erase table }) := if_pos hcontains
    refine .inl ⟨(), _, _, statement_of_ok hd hleft, statement_of_ok he hright, h.routine, h.left,
      h.right, h.givenLeft, h.givenRight, ?_, hclean⟩
    show d.temporaryTables.erase table = e.temporaryTables.erase table
    rw [h.temporary]
  | false =>
    have hnone : d.temporaryTables.get? table = none := by
      rw [← h.temporary] at hcontains
      simpa [SortedMap.contains] using hcontains
    have hleft : dropTemporary table (d.record (Database.dropTemporaryStatement table)) =
        .error (.unknownTable table) := if_neg (by
      rw [← h.temporary] at hcontains
      exact Bool.eq_false_iff.1 hcontains)
    have hright : dropTemporary table (e.record (Database.dropTemporaryStatement table)) =
        .error (.unknownTable table) := if_neg (Bool.eq_false_iff.1 hcontains)
    -- there was nothing to drop, so nothing is left
    rw [SortedMap.erase_of_get?_eq_none hnone] at hclean
    exact .inr ⟨_, _, _, statement_of_error hd hleft, statement_of_error he hright, h.routine,
      h.left, h.right, h.givenLeft, h.givenRight, h.temporary, hclean⟩

end

end InMemory

/-! ### Proper sources -/

/-- The source at a path with what its text says, if it can be read and used. -/
def reads? (setting : RunSetting) (path : Path) : Option (Source × ParsedRoutine) :=
  (readSource setting.files path).toOption.bind fun source =>
    (source.parse setting.table).toOption.map fun parsed => (source, parsed)

/-- A source that keeps to itself, given a database: its text declares the same routine with the
    placeholders replaced, and if it inserts rows in bulk, the temporary table that it creates is
    the one it names, and may be dropped. -/
@[mk_iff]
structure Proper (setting : RunSetting) (d : InMemory) (path : Path) : Prop where
  keeps : ∀ r ∈ reads? setting path,
    Signature.find? (r.1.statement r.2) = Signature.find? r.1.text
  creates : ∀ r ∈ reads? setting path, ∀ table ∈ r.2.directives.designation.table?,
    ∀ created ∈ d.temporaryOnCall.get? path.stem, created.1 = table
  drops : ∀ r ∈ reads? setting path, ∀ table ∈ r.2.directives.designation.table?,
    d.rejection? (Database.dropTemporaryStatement table) = none

instance (setting : RunSetting) (d : InMemory) (path : Path) : Decidable (Proper setting d path) :=
  decidable_of_iff' _ (proper_iff setting d path)

namespace InMemory

variable {n : String} {d₀ e₀ : InMemory}

/-- The columns and parameters of a proper routine are reconciled alike. -/
theorem coupled_reconcile {parsed : ParsedRoutine}
    (hcreates : ∀ table ∈ parsed.directives.designation.table?,
      ∀ created ∈ d₀.temporaryOnCall.get? parsed.name, created.1 = table)
    (hdrops : ∀ table ∈ parsed.directives.designation.table?,
      d₀.rejection? (Database.dropTemporaryStatement table) = none) :
    Loading.Coupled (Alike parsed.name d₀ e₀) (Alike parsed.name d₀ e₀) (Alike parsed.name d₀ e₀)
      (Loading.reconcile inMemory parsed) := by
  refine Loading.coupled_reconcile ?_ answers_routineParameters
  refine Loading.coupled_resolveColumns (fun table _ => answers_tableExists table)
    (fun table _ => answers_describeTable table) fun table htable => ?_
  exact Loading.coupled_describeCreated (answers_callRoutine (hcreates table htable))
    (answers_describeTable table) (answers_dropTemporaryTable (hdrops table htable))

/-- A routine whose statement creates it under its own name is installed alike. -/
theorem coupled_install {source : Source} {parsed : ParsedRoutine} (context : LoadContext)
    {kind : RoutineKind}
    (hfind : Signature.find? (source.statement parsed) = some ⟨kind, parsed.name⟩) :
    Loading.Coupled (Alike parsed.name d₀ e₀) (Alike parsed.name d₀ e₀) (Alike parsed.name d₀ e₀)
      (Loading.install inMemory source parsed context) :=
  -- the settings may differ until both of their parts have been set
  Loading.coupled_install answers_dropRoutine (answers_setSqlMode _) (answers_setCharacterSet _ _)
    (answers_execute hfind)

/-- A proper source is loaded alike. -/
theorem coupled_routine {setting : RunSetting} {path : Path} {source : Source}
    (h : Proper setting d₀ path) (hread : readSource setting.files path = .ok source)
    (context : LoadContext) (htable : context.table = setting.table) :
    Loading.Coupled (Alike path.stem d₀ e₀) (Alike path.stem d₀ e₀) (Alike path.stem d₀ e₀)
      (Loading.routine inMemory source context) := by
  refine Loading.coupled_routine fun parsed hparse => ?_
  rw [htable] at hparse
  have hreads : (source, parsed) ∈ reads? setting path := by
    rw [reads?, hread, Option.mem_def]
    exact congrArg (fun r => (Except.toOption r).map fun parsed => (source, parsed)) hparse
  obtain ⟨hname, -, hfind, hsignature, -⟩ := Loading.parse_eq_ok hparse
  have hstem : parsed.name = path.stem := hname.trans (stem_of_readSource hread)
  -- the text that is sent declares the routine of the file
  have hdeclared : Signature.find? (source.statement parsed) =
      some ⟨parsed.signature.kind, parsed.name⟩ := by
    rw [h.keeps _ hreads, hfind, hname, ← hsignature]
  have hcreates := h.creates _ hreads
  have hdrops := h.drops _ hreads
  rw [← hstem] at hcreates ⊢
  exact ⟨coupled_install context hdeclared, coupled_reconcile hcreates hdrops⟩

/-- The load of a proper source asks two databases for the routine of its name only, and goes the
    same way if they hold the same one. -/
theorem coupled_loadSource {setting : RunSetting} {path : Path} (h : Proper setting d₀ path)
    (store : Store) :
    Loading.Coupled (Alike path.stem d₀ e₀) (Alike path.stem d₀ e₀) (Alike path.stem d₀ e₀)
      (loadSource inMemory setting store path) :=
  Loading.coupled_loadSource answers_routineInfo
    (fun _ hread _ => coupled_routine h hread _ rfl) store

end InMemory

end StoredRoutines
