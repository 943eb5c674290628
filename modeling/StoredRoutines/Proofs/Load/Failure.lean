import StoredRoutines.Proofs.Load.Parameters
import StoredRoutines.Proofs.Load.Routine
import StoredRoutines.Proofs.Load.Statements

/-!
# Loads that fail

A source that cannot be used leaves the database as it was. An installation that fails has sent the
first of its statements, up to the one that was refused, and may have removed the previous version
of its routine. All other routines stay.

## Main definitions

- `LoadError.isOfText` — the errors that the text of a source gives rise to
- `Loading.Raises` — all errors of a computation are of a kind
- `Order`, `Loading.carryOut` — statements that are carried out one after the other
- `InMemory.Survives`, `InMemory.CutShort` — what a failed installation leaves

## Main results

- `Loading.carryOut_eq_error` — the statement at which they have come to a halt
- `Loading.failed_load` — what a load that fails leaves
-/

namespace StoredRoutines

/-- Whether an error tells of the text of a source, which is read before the database is asked. -/
def LoadError.isOfText : LoadError → Bool
  | unknownPlaceholder _ => true
  | missingDesignationType => true
  | malformedBulkInsert _ => true
  | unexpectedArguments _ _ => true
  | signatureNotFound => true
  | nameMismatch _ _ => true
  | duplicateListParameter _ => true
  | malformedListParameter _ _ => true
  | invalidReturnType _ => true
  | sourceUnreadable _ => false
  | loadFailed _ _ => false
  | columnCountMismatch _ _ _ => false
  | unknownListParameter _ => false

namespace Loading

/-! ### Kinds of errors -/

section

variable {σ ε α β : Type} {P : ε → Prop}

/-- Every error of a computation is of a kind. -/
def Raises (P : ε → Prop) (m : Loading σ ε α) : Prop :=
  ∀ s e s', m s = .error e s' → P e

namespace Raises

theorem pure (a : α) : Raises P (pure a : Loading σ ε α) :=
  fun _ _ _ h => absurd h pure_ne_error

theorem notify (notices : List Notice) : Raises P (notify notices : Loading σ ε Unit) :=
  fun _ _ _ h => absurd h notify_ne_error

theorem throw {e : ε} (h : P e) : Raises P (throw e : Loading σ ε α) := by
  intro s e' s' he
  cases he
  exact h

theorem ofExcept {outcome : Except ε α} (h : ∀ e, outcome = .error e → P e) :
    Raises P (ofExcept outcome : Loading σ ε α) :=
  fun _ e _ he => h e (ofExcept_eq_error_iff.1 he).1

theorem ask {failed : DatabaseError → ε} {query : Query σ α} (h : ∀ c, P (failed c)) :
    Raises P (ask failed query) := by
  intro s e s' he
  obtain ⟨c, -, -, rfl, -⟩ := ask_eq_error_iff.1 he
  exact h c

theorem attempt (query : Query σ α) :
    Raises P (attempt query : Loading σ ε (Except DatabaseError α)) :=
  nofun

theorem bind {m : Loading σ ε α} {f : α → Loading σ ε β} (hm : Raises P m)
    (hf : ∀ a, Raises P (f a)) : Raises P (m >>= f) := by
  intro s e s' h
  rcases bind_eq_error_iff.1 h with h | ⟨a, t, -, h⟩
  · exact hm s e s' h
  · exact hf a t e s' h

end Raises

end

section

variable {σ : Type} {db : Database σ}

theorem install_raises (source : Source) (parsed : ParsedRoutine) (context : LoadContext) :
    Raises (fun e => e.isOfText = false) (install db source parsed context) := by
  have hrest : Raises (fun e : LoadError => e.isOfText = false) (do
      ask (.loadFailed parsed.name) (db.setSqlMode context.session.sqlMode)
      ask (.loadFailed parsed.name)
        (db.setCharacterSet context.session.characterSet context.session.collation)
      ask (.loadFailed parsed.name) (db.execute (source.statement parsed)) :
        Loading σ LoadError Unit) :=
    .bind (.ask fun _ => rfl) fun _ => .bind (.ask fun _ => rfl) fun _ => .ask fun _ => rfl
  unfold install
  cases context.catalog with
  | none => exact hrest
  | some previous => exact .bind (.ask fun _ => rfl) fun _ => hrest

theorem describeCreated_raises (routine table : String) :
    Raises (fun e => e.isOfText = false) (describeCreated db routine table) := by
  refine .bind (.ask fun _ => rfl) fun _ => .bind (.attempt _) fun described =>
    .bind (.attempt _) fun dropped => ?_
  -- a table that stays behind is an error unless the columns are missing as well
  rcases described with e | columns <;> rcases dropped with e' | u
  · exact .bind (.notify _) fun _ => .pure _
  · exact .pure _
  · exact .throw rfl
  · exact .pure _

theorem checkColumns_raises (routine table : String) (listed : List String)
    (described : Except DatabaseError (List TableColumn)) :
    Raises (fun e => e.isOfText = false)
      (checkColumns routine table listed described : Loading σ LoadError _) := by
  cases described with
  | error e => exact .throw rfl
  | ok columns =>
    unfold checkColumns
    by_cases hl : listed.length = columns.length
    · simp only [hl, if_true]
      exact .pure _
    · simp only [hl, if_false]
      exact .throw rfl

theorem resolveColumns_raises (routine : String) (d : Designation) :
    Raises (fun e => e.isOfText = false) (resolveColumns db routine d) := by
  cases d with
  | bulkInsert table listed =>
    rw [resolveColumns_bulkInsert]
    refine .bind (.ask fun _ => rfl) fun permanent => ?_
    refine .bind ?_ (checkColumns_raises routine table listed)
    cases permanent with
    | true => exact .attempt _
    | false => exact describeCreated_raises routine table
  | _ => exact .pure _

/-- An unknown parameter is not an error of the text, since the catalog decides. -/
theorem merge_eq_error {catalog : List CatalogParameter} {formats : List ListParameter}
    {e : LoadError} (h : RoutineParameter.merge catalog formats = .error e) :
    e.isOfText = false := by
  obtain ⟨_, _, _, -, -, -, rfl⟩ := RoutineParameter.merge_eq_error_iff.1 h
  rfl

theorem reconcile_raises (parsed : ParsedRoutine) :
    Raises (fun e => e.isOfText = false) (reconcile db parsed) :=
  .bind (resolveColumns_raises _ _) fun _ =>
    .bind (.bind (.ask fun _ => rfl) fun _ => .ofExcept fun _ he => merge_eq_error he) fun _ =>
      .bind (.notify _) fun _ => .pure _

/-- An error that the text of a source gives rise to leaves the database as it was. -/
theorem database_of_textError {source : Source} {context : LoadContext} {s s' : Session σ}
    {e : LoadError} (h : routine db source context s = .error e s') (he : e.isOfText = true) :
    s'.database = s.database := by
  rcases routine_eq_error h with h | ⟨parsed, -, ⟨notices, h⟩ | ⟨d, -, notices, h⟩⟩
  · exact h
  · exact absurd (he.symm.trans (install_raises _ _ _ _ _ _ h)) nofun
  · exact absurd (he.symm.trans (reconcile_raises _ _ _ _ h)) nofun

end

end Loading

/-! ### Statements in a row -/

/-- A statement with the change it makes. -/
structure Order where
  /-- The statement. -/
  sql : String
  /-- The change. -/
  act : InMemory → Except DatabaseError (Unit × InMemory)

/-- What is there of a database when the routine of a name may have been removed. -/
structure InMemory.Survives (name : String) (d d' : InMemory) : Prop where
  own : d'.routines.get? name = d.routines.get? name ∨ d'.routines.get? name = none
  others : ∀ n, n ≠ name → d'.routines.get? n = d.routines.get? n
  tables : d'.tables = d.tables
  temporaryTables : d'.temporaryTables = d.temporaryTables
  calls : d'.calls = d.calls

namespace InMemory.Survives

variable {name : String} {d d' d'' : InMemory}

theorem refl (name : String) (d : InMemory) : Survives name d d :=
  ⟨.inl rfl, fun _ _ => rfl, rfl, rfl, rfl⟩

theorem trans (h : Survives name d d') (h' : Survives name d' d'') : Survives name d d'' where
  own := by
    rcases h'.own with hown | hown
    · rw [hown]
      exact h.own
    · exact .inr hown
  others n hn := (h'.others n hn).trans (h.others n hn)
  tables := h'.tables.trans h.tables
  temporaryTables := h'.temporaryTables.trans h.temporaryTables
  calls := h'.calls.trans h.calls

theorem record (sql : String) (d : InMemory) : Survives name d (d.record sql) :=
  ⟨.inl rfl, fun _ _ => rfl, rfl, rfl, rfl⟩

theorem drop (kind : RoutineKind) (name : String) (d : InMemory) :
    Survives name d (d.drop kind name) := by
  unfold InMemory.drop
  split
  · split
    · refine ⟨.inr ?_, fun n hn => ?_, rfl, rfl, rfl⟩
      · rw [SortedMap.get?_erase, if_pos rfl]
      · rw [SortedMap.get?_erase, if_neg hn]
    · exact refl _ _
  · exact refl _ _

end InMemory.Survives

open InMemory (Survives)

namespace Order

/-- The order that drops a routine. -/
def drop (kind : RoutineKind) (name : String) : Order :=
  ⟨Database.dropStatement kind name, fun d => .ok ((), d.drop kind name)⟩

/-- The order that sets the SQL mode. -/
def sqlMode (mode : String) : Order :=
  ⟨Database.sqlModeStatement mode, fun d => .ok ((), d.withSqlMode mode)⟩

/-- The order that sets character set and collation. -/
def characterSet (characterSet collation : String) : Order :=
  ⟨Database.characterSetStatement characterSet collation,
    fun d => .ok ((), d.withCharacterSet characterSet collation)⟩

/-- The order that creates a routine. -/
def create (text : String) : Order := ⟨text, InMemory.create text⟩

/-- An order that at most removes the routine of a name. -/
def Removes (name : String) (o : Order) : Prop :=
  ∀ d d', o.act d = .ok ((), d') → Survives name d d' ∧ d'.statements = d.statements

theorem Removes.drop (kind : RoutineKind) (name : String) : (drop kind name).Removes name := by
  intro d d' h
  cases h
  refine ⟨.drop kind name d, ?_⟩
  unfold InMemory.drop
  split
  · split <;> rfl
  · rfl

theorem Removes.sqlMode {name : String} (mode : String) : (sqlMode mode).Removes name := by
  intro d d' h
  cases h
  exact ⟨⟨.inl rfl, fun _ _ => rfl, rfl, rfl, rfl⟩, rfl⟩

theorem Removes.characterSet {name : String} (charset collation : String) :
    (characterSet charset collation).Removes name := by
  intro d d' h
  cases h
  exact ⟨⟨.inl rfl, fun _ _ => rfl, rfl, rfl, rfl⟩, rfl⟩

end Order

namespace Loading

/-- Orders that are carried out one after the other. -/
def carryOut {ε : Type} (failed : DatabaseError → ε) : List Order → Loading InMemory ε Unit
  | [] => pure ()
  | o :: rest => do
    ask failed (InMemory.statement o.sql o.act)
    carryOut failed rest

section

variable {ε : Type} {failed : DatabaseError → ε} {orders : List Order} {s s' : Session InMemory}
  {name : String}

/-- Orders that remove the routine at most leave the others and are all sent. -/
theorem carryOut_eq_ok (hact : ∀ o ∈ orders, o.Removes name)
    (h : carryOut failed orders s = .ok () s') :
    Survives name s.database s'.database ∧
      s'.database.statements = s.database.statements ++ orders.map (·.sql) := by
  induction orders generalizing s with
  | nil =>
    obtain ⟨-, rfl⟩ := pure_eq_ok_iff.1 h
    exact ⟨.refl _ _, (List.append_nil _).symm⟩
  | cons o rest ih =>
    obtain ⟨u, t, ht, hrest⟩ := bind_eq_ok_iff.1 h
    obtain ⟨d, hd, rfl⟩ := ask_eq_ok_iff.1 ht
    obtain ⟨hfirst, hfirstStatements⟩ :=
      hact o List.mem_cons_self _ _ (InMemory.statement_eq_ok hd)
    obtain ⟨hlater, hlaterStatements⟩ :=
      ih (fun o' ho' => hact o' (List.mem_cons_of_mem _ ho')) hrest
    refine ⟨(Survives.record o.sql _).trans (hfirst.trans hlater), ?_⟩
    rw [hlaterStatements, hfirstStatements, InMemory.record, List.map_cons, List.append_assoc]
    rfl

/-- Orders come to a halt at one of them: those before it have been carried out, and it has only
    been recorded. -/
theorem carryOut_eq_error {e : ε} (h : carryOut failed orders s = .error e s') :
    ∃ before o after t, orders = before ++ o :: after ∧ carryOut failed before s = .ok () t ∧
      s'.database = t.database.record o.sql := by
  induction orders generalizing s with
  | nil => exact absurd h pure_ne_error
  | cons o rest ih =>
    rcases bind_eq_error_iff.1 h with h | ⟨u, t, ht, h⟩
    · exact ⟨[], o, rest, s, rfl, rfl, ask_statement_eq_error h⟩
    · obtain ⟨before, o', after, t', rfl, ht', hs'⟩ := ih h
      exact ⟨o :: before, o', after, t', rfl, bind_eq_ok_iff.2 ⟨u, t, ht, ht'⟩, hs'⟩

end

end Loading

/-- What is left when the statements of a list have been sent up to one that was refused. -/
structure InMemory.CutShort (name : String) (script : List String) (d d' : InMemory) : Prop
    extends Survives name d d' where
  sent : ∃ added, added ≠ [] ∧ added <+: script ∧ d'.statements = d.statements ++ added

namespace Loading

/-- The last one of several orders may do whatever it likes, since there is nothing after it. -/
theorem cutShort_of_carryOut {ε : Type} {failed : DatabaseError → ε} {orders : List Order}
    {s s' : Session InMemory} {name : String} {e : ε}
    (hact : ∀ o ∈ orders.dropLast, o.Removes name) (h : carryOut failed orders s = .error e s') :
    InMemory.CutShort name (orders.map (·.sql)) s.database s'.database := by
  obtain ⟨before, o, after, t, rfl, ht, hs'⟩ := carryOut_eq_error h
  have hbefore : ∀ o' ∈ before, o'.Removes name := fun o' ho' => hact o' (by
    rw [List.dropLast_append_cons]
    exact List.mem_append_left _ ho')
  obtain ⟨hsurvives, hstatements⟩ := carryOut_eq_ok hbefore ht
  rw [hs']
  refine ⟨hsurvives.trans (.record _ _), before.map (·.sql) ++ [o.sql], by simp, ?_, ?_⟩
  · rw [List.map_append, List.map_cons]
    exact ⟨after.map (·.sql), by rw [List.append_assoc, List.singleton_append]⟩
  · rw [InMemory.record, hstatements, List.append_assoc]

/-! ### The installation -/

section

variable {source : Source} {parsed : ParsedRoutine} {context : LoadContext}

/-- The orders that make room for a routine. -/
def preparingOrders (parsed : ParsedRoutine) (context : LoadContext) : List Order :=
  (context.catalog.map fun previous => Order.drop previous.kind parsed.name).toList ++
    [.sqlMode context.session.sqlMode,
      .characterSet context.session.characterSet context.session.collation]

/-- The orders that replace a routine. -/
def installOrders (source : Source) (parsed : ParsedRoutine) (context : LoadContext) : List Order :=
  preparingOrders parsed context ++ [.create (source.statement parsed)]

/-- The installation of a routine carries out its orders. -/
theorem install_eq_carryOut :
    install inMemory source parsed context =
      carryOut (LoadError.loadFailed parsed.name) (installOrders source parsed context) := by
  rw [install_eq, inMemory_setSqlMode, inMemory_setCharacterSet, inMemory_execute]
  unfold installOrders preparingOrders clear
  cases context.catalog with
  | none =>
    simp only [Option.map_none, Option.toList_none, List.nil_append, List.cons_append, pure_bind,
      carryOut, bind_pure_unit, Order.sqlMode, Order.characterSet, Order.create]
  | some previous =>
    simp only [Option.map_some, Option.toList_some, List.nil_append, List.cons_append, carryOut,
      bind_pure_unit, Order.sqlMode, Order.characterSet, Order.create, Order.drop,
      inMemory_dropRoutine]

/-- The orders before the statement of the routine remove the routine at most. -/
theorem removes_of_mem_preparingOrders {o : Order} (ho : o ∈ preparingOrders parsed context) :
    o.Removes parsed.name := by
  rcases List.mem_append.1 ho with ho | ho
  · obtain ⟨previous, -, rfl⟩ := Option.map_eq_some_iff.1 (Option.mem_toList.1 ho)
    exact .drop _ _
  · rcases List.mem_cons.1 ho with rfl | ho
    · exact .sqlMode _
    · obtain rfl := List.mem_singleton.1 ho
      exact .characterSet _ _

/-- An installation that fails has sent its statements up to the one that was refused. -/
theorem cutShort_of_install {s s' : Session InMemory} {e : LoadError}
    (h : install inMemory source parsed context s = .error e s') :
    InMemory.CutShort parsed.name ((installOrders source parsed context).map (·.sql))
      s.database s'.database := by
  rw [install_eq_carryOut] at h
  refine cutShort_of_carryOut (fun o ho => ?_) h
  rw [installOrders, List.dropLast_concat] at ho
  exact removes_of_mem_preparingOrders ho

/-- The orders of an installation are sent as a drop of the old routine, the session and the
    statement of the new one. -/
theorem script_eq {d : InMemory} (hcatalog : context.catalog = d.catalogEntry parsed.name) :
    (installOrders source parsed context).map (·.sql) =
      ((d.routines.get? parsed.name).map fun r =>
          Database.dropStatement r.kind parsed.name).toList ++
        [Database.sqlModeStatement context.session.sqlMode,
          Database.characterSetStatement context.session.characterSet context.session.collation,
          source.statement parsed] := by
  unfold installOrders preparingOrders
  rw [hcatalog, InMemory.catalogEntry]
  cases d.routines.get? parsed.name with
  | none => rfl
  | some r => rfl

end

/-! ### Routines of other names -/

theorem Asks.mono {σ : Type} {db : Database σ} {F G : Frame σ} {name : String}
    (hFG : ∀ d d', F.rel d d' → G.rel d d') (h : Asks db F name) : Asks db G name where
  table t d := hFG _ _ (h.table t d)
  parameters d := hFG _ _ (h.parameters d)
  call d := hFG _ _ (h.call d)
  describe t d := hFG _ _ (h.describe t d)
  dropTemporary t d := hFG _ _ (h.dropTemporary t d)

end Loading

/-- The routines that are there stay as they are, apart from the one of a name. -/
def Frame.besides (name : String) : Frame InMemory where
  rel d d' := ∀ n r, n ≠ name → d.routines.get? n = some r → d'.routines.get? n = some r
  refl _ _ _ _ hr := hr
  trans hab hbc n r hn hr := hbc n r hn (hab n r hn hr)

namespace InMemory

/-- Creating a routine does not replace one. -/
theorem create_besides {name text : String} {d d' : InMemory} {u : Unit}
    (h : create text d = .ok (u, d')) : (Frame.besides name).rel d d' := by
  obtain ⟨hcreatable, rfl⟩ := create_eq_ok h
  intro n r _ hr
  change (created d.routines text d.settings).get? n = some r
  unfold created
  split
  next => exact hr
  next signature hfind =>
    rw [SortedMap.get?_insert, if_neg]
    · exact hr
    -- with a routine of its name, the statement would have been refused
    · rintro rfl
      rw [hcreatable signature hfind] at hr
      cases hr

/-- The database in memory leaves the other routines alone whatever it is asked about the
    routine. -/
theorem permits_besides (name : String) (texts : String → Prop) :
    Loading.Permits inMemory (Frame.besides name) name texts where
  toAsks := (Loading.asks_kept name).mono fun d d' hkept n r _ hr => by
    obtain ⟨hroutines, -⟩ := Prod.mk.inj hkept
    rw [hroutines]
    exact hr
  info _ := Frame.refl _ _
  drop kind := statement_rel (fun _ _ _ _ hr => hr) fun d _ d' h n r hn hr => by
    cases h
    exact ((Survives.drop kind name d).others n hn).trans hr
  sqlMode mode := statement_rel (fun _ _ _ _ hr => hr) fun d _ d' h n r _ hr => by
    cases h
    exact hr
  characterSet charset collation := statement_rel (fun _ _ _ _ hr => hr) fun d _ d' h n r _ hr => by
    cases h
    exact hr
  create text _ := statement_rel (fun _ _ _ _ hr => hr) fun d _ d' h => create_besides h

end InMemory

namespace Loading

/-- Given the catalog entry that the database has for a source, a load whose text cannot be used
    leaves the database as it was. If the installation fails, the routine of the source is as it was
    or gone, and the statements are those of the installation up to the one that was refused.
    However a load ends, the routines of other names that were there are as they were. -/
theorem failed_load {source : Source} {context : LoadContext} {s : Session InMemory}
    (hcatalog : (inMemory.routineInfo source.routineName s.database).1 = .ok context.catalog) :
    (∀ e s', routine inMemory source context s = .error e s' → e.isOfText = true →
      s'.database = s.database) ∧
    (∀ parsed e s', source.parse context.table = .ok parsed →
      install inMemory source parsed context s = .error e s' →
      InMemory.CutShort source.routineName
        (((s.database.routines.get? source.routineName).map fun r =>
            Database.dropStatement r.kind source.routineName).toList ++
          [Database.sqlModeStatement context.session.sqlMode,
            Database.characterSetStatement context.session.characterSet context.session.collation,
            source.statement parsed])
        s.database s'.database) ∧
    ∀ n r, n ≠ source.routineName → s.database.routines.get? n = some r →
      (databaseOf (routine inMemory source context s)).routines.get? n = some r := by
  refine ⟨fun e s' h he => database_of_textError h he, fun parsed e s' hparse h => ?_, ?_⟩
  · have hentry : context.catalog = s.database.catalogEntry source.routineName :=
      (Except.ok.inj hcatalog).symm
    obtain ⟨hname, -⟩ := parse_eq_ok hparse
    rw [← hname] at hentry ⊢
    rw [← script_eq hentry]
    exact cutShort_of_install h
  · exact routine_within context (InMemory.permits_besides _ fun _ => True) (fun _ _ => trivial) s

/-! ### A database that refuses a statement -/

/-- A source of a procedure with a placeholder in its body. -/
def stocktake : Source where
  path := ⟨"/psql/stocktake.psql"⟩
  text := "create procedure stocktake()\n-- type: none\nbegin\nselect @LIMIT@;\nend\n"
  mtime := 1000

/-- A value for the placeholder. -/
def stocktakeTable : Placeholder.Table := .ofList [("@LIMIT@", "10")]

/-- A database with two routines that does not set the character set. -/
def depot : InMemory :=
  { InMemory.empty with
    routines := .ofList [("stocktake", ⟨.function, "", ⟨"", "", ""⟩⟩),
      ("order", ⟨.procedure, "", ⟨"", "", ""⟩⟩)]
    failing := ["set names"] }

/-- What a load of the source knows of the run and of the catalog. -/
def depotContext (table : Placeholder.Table) : LoadContext :=
  ⟨table, ⟨"ANSI", "utf8mb4", "utf8mb4_bin"⟩, depot.catalogEntry "stocktake"⟩

/-- What is read from the source. -/
def depotParsed : ParsedRoutine where
  name := "stocktake"
  signature := ⟨.procedure, "stocktake"⟩
  directives := ⟨.plain "none", none, []⟩
  replace := .ofList [("@LIMIT@", "10")]
  doc := .empty

theorem depot_parse : stocktake.parse stocktakeTable = .ok depotParsed := by
  decide +kernel

/-- The conditions can be met: without a value for the placeholder nothing happens, and with one the
    function goes before the character set is refused. The procedure stays. -/
theorem failed_load_depot :
    (∃ e s', routine inMemory stocktake (depotContext .empty) ⟨depot, []⟩ = .error e s' ∧
      e.isOfText = true ∧ s'.database = depot) ∧
    (∃ e s', install inMemory stocktake depotParsed (depotContext stocktakeTable) ⟨depot, []⟩ =
        .error e s' ∧
      s'.database.routines.get? "stocktake" = none ∧ s'.database.calls = [] ∧
      ∃ added, added ≠ [] ∧ s'.database.statements = added ∧
        added <+: ["drop function if exists stocktake", "set sql_mode = 'ANSI'",
          "set names 'utf8mb4' collate 'utf8mb4_bin'",
          "create procedure stocktake()\n-- type: none\nbegin\nselect 10;\nend\n"]) ∧
    (databaseOf (routine inMemory stocktake (depotContext stocktakeTable)
      ⟨depot, []⟩)).routines.get? "order" = some ⟨.procedure, "", ⟨"", "", ""⟩⟩ := by
  have hcatalog : ∀ table, (inMemory.routineInfo stocktake.routineName depot).1 =
      .ok (depotContext table).catalog := by
    have hname : stocktake.routineName = "stocktake" := by decide +kernel
    rw [hname]
    exact fun _ => rfl
  obtain ⟨htext, -, -⟩ := failed_load (s := ⟨depot, []⟩) (hcatalog .empty)
  obtain ⟨-, hinstall, hothers⟩ := failed_load (s := ⟨depot, []⟩) (hcatalog stocktakeTable)
  have hunknown : routine inMemory stocktake (depotContext .empty) ⟨depot, []⟩ =
      .error (.unknownPlaceholder ["@LIMIT@"]) _ := eq_error_of_refused? (by decide +kernel)
  have hrefused : install inMemory stocktake depotParsed (depotContext stocktakeTable) ⟨depot, []⟩ =
      .error (.loadFailed "stocktake" (.rejected "set names"
        "set names 'utf8mb4' collate 'utf8mb4_bin'")) _ := eq_error_of_refused? (by decide +kernel)
  obtain ⟨added, hne, hprefix, hstatements⟩ := (hinstall _ _ _ depot_parse hrefused).sent
  refine ⟨⟨_, _, hunknown, rfl, htext _ _ hunknown rfl⟩, ⟨_, _, hrefused, by decide +kernel,
    (hinstall _ _ _ depot_parse hrefused).calls, added, hne, hstatements, ?_⟩,
    hothers "order" _ (by decide +kernel) (by decide +kernel)⟩
  convert hprefix using 1
  decide +kernel

end Loading

end StoredRoutines
