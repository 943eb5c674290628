import StoredRoutines.Proofs.Load.Coupling

/-!
# The columns of a bulk insert

On the in-memory database the table of a bulk insert is described without a trace, but for the
statements and the calls that are noted: a temporary table that is created for it is dropped again,
whatever else fails.

## Main definitions

- `InMemory.shown` — the answer when the table of a bulk insert is described
- `InMemory.noting` — the state in which statements and calls have been noted

## Main results

- `Loading.describeCreated_restores` — the table that a call creates is dropped
- `Loading.resolveColumns_restores` — the state that is left behind, and the outcome
-/

namespace StoredRoutines

namespace InMemory

variable {routine table : String} {d called : InMemory}

/-- The statement that asks for the columns of a table. -/
def showStatement (table : String) : String :=
  "show columns from " ++ table

/-- The answer when the table of a bulk insert is described, at once if it is permanent, and
    otherwise after the routine has been called. -/
def shown (routine table : String) (d : InMemory) : Except DatabaseError (List TableColumn) :=
  if d.tables.contains table then (inMemory.describeTable table d).1
  else
    match inMemory.callRoutine routine d with
    | (.ok (), called) => (inMemory.describeTable table called).1
    | (.error e, _) => .error e

/-- The state in which statements and calls have been noted, and nothing else has changed. -/
def noting (statements calls : List String) (d : InMemory) : InMemory :=
  { d with statements := d.statements ++ statements, calls := d.calls ++ calls }

theorem describeTable_state (table : String) (d : InMemory) :
    (inMemory.describeTable table d).2 = d.record (showStatement table) := by
  rw [inMemory_describeTable]
  rcases hd : statement ("show columns from " ++ table) (describe table) d with ⟨e | columns, d'⟩
  · exact statement_eq_error hd
  · have hact := statement_eq_ok hd
    unfold describe at hact
    split at hact
    · cases hact
      rfl
    · cases hact

/-- A table that can be described without being a permanent one is a temporary one. -/
theorem contains_of_describeTable {columns : List TableColumn}
    (h : (inMemory.describeTable table d).1 = .ok columns)
    (htable : d.tables.contains table = false) : d.temporaryTables.contains table = true := by
  have hnone : (d.record ("show columns from " ++ table)).tables.get? table = none := by
    show d.tables.get? table = none
    simpa [SortedMap.contains] using htable
  have hact := statement_eq_ok (Prod.ext h rfl : inMemory.describeTable table d = (.ok columns, _))
  unfold describe at hact
  rw [hnone, Option.or_none] at hact
  split at hact
  · next hget => exact Option.isSome_iff_exists.2 ⟨_, hget⟩
  · cases hact

/-- Dropping a temporary table takes it away if it is there, and does nothing otherwise. -/
theorem dropTemporaryTable_eq
    (hdrop : d.rejection? (Database.dropTemporaryStatement table) = none) :
    inMemory.dropTemporaryTable table d =
      (if d.temporaryTables.contains table then .ok () else .error (.unknownTable table),
        { d.record (Database.dropTemporaryStatement table) with
          temporaryTables := d.temporaryTables.erase table }) := by
  rw [inMemory_dropTemporaryTable]
  cases hcontains : d.temporaryTables.contains table with
  | true =>
    rw [if_pos rfl]
    exact statement_of_ok hdrop (if_pos hcontains)
  | false =>
    have hnone : d.temporaryTables.get? table = none := by
      simpa [SortedMap.contains] using hcontains
    rw [if_neg Bool.false_ne_true, SortedMap.erase_of_get?_eq_none hnone]
    exact statement_of_error hdrop (if_neg (Bool.eq_false_iff.1 hcontains))

/-- A call is noted, and it changes nothing but the temporary tables. -/
theorem call_eq_ok (h : call routine d = .ok ((), called)) :
    called = { d.noting [] [routine] with temporaryTables := called.temporaryTables } ∧
      (called.temporaryTables = d.temporaryTables ∨
        ∃ created ∈ d.temporaryOnCall.get? routine,
          called.temporaryTables = d.temporaryTables.insert created.1 created.2) := by
  unfold call at h
  split at h
  · cases hcreated : d.temporaryOnCall.get? routine with
    | none =>
      simp only [hcreated] at h
      cases h
      exact ⟨by simp [noting], .inl rfl⟩
    | some created =>
      simp only [hcreated] at h
      cases h
      exact ⟨by simp [noting], .inr ⟨created, rfl, rfl⟩⟩
  · cases h

/-- Once the table that a call creates is taken away, only the call is noted. -/
theorem callRoutine_erase (hcreates : ∀ created ∈ d.temporaryOnCall.get? routine, created.1 = table)
    (hfresh : d.temporaryTables.get? table = none)
    (h : inMemory.callRoutine routine d = (.ok (), called)) :
    { called with temporaryTables := called.temporaryTables.erase table } =
      d.noting [Database.callStatement routine] [routine] := by
  obtain ⟨hcalled, htables⟩ := call_eq_ok (statement_eq_ok h)
  have herase : called.temporaryTables.erase table = d.temporaryTables := by
    rcases htables with htables | ⟨created, hmem, htables⟩
    · rw [htables]
      exact SortedMap.erase_of_get?_eq_none hfresh
    · rw [htables, hcreates created hmem]
      exact SortedMap.erase_insert _ hfresh
  rw [herase, hcalled]
  simp [noting, InMemory.record]

end InMemory

namespace Loading

open InMemory

variable {routine table : String} {s : Session InMemory} {called : InMemory}

theorem attempt_eq {σ α : Type} (query : Query σ α) (s : Session σ) :
    (attempt query : Loading σ LoadError _) s =
      .ok (query s.database).1 { s with database := (query s.database).2 } := rfl

/-- A table that a call creates is dropped again, whether it could be described or not. -/
theorem describeCreated_restores
    (hcreates : ∀ created ∈ s.database.temporaryOnCall.get? routine, created.1 = table)
    (hfresh : s.database.temporaryTables.get? table = none)
    (hdrop : s.database.rejection? (Database.dropTemporaryStatement table) = none)
    (htable : s.database.tables.contains table = false)
    (hcall : inMemory.callRoutine routine s.database = (.ok (), called)) :
    ∃ s', describeCreated inMemory routine table s =
        .ok (inMemory.describeTable table called).1 s' ∧
      s'.database = s.database.noting [Database.callStatement routine, showStatement table,
        Database.dropTemporaryStatement table] [routine] := by
  have herase := callRoutine_erase hcreates hfresh hcall
  -- what is neither noted nor a temporary table is what it was before the call
  have hrejection : (called.record (showStatement table)).rejection?
      (Database.dropTemporaryStatement table) = none := by
    rw [← hdrop]
    exact congrArg (fun d => d.rejection? (Database.dropTemporaryStatement table)) herase
  have htables : called.tables.contains table = false := by
    rw [← htable]
    exact congrArg (fun d => d.tables.contains table) herase
  have hdropped := dropTemporaryTable_eq hrejection
  have hstate : { (called.record (showStatement table)).record
        (Database.dropTemporaryStatement table) with
      temporaryTables := called.temporaryTables.erase table } =
      s.database.noting [Database.callStatement routine, showStatement table,
        Database.dropTemporaryStatement table] [routine] := by
    have hrecorded := congrArg (fun d => (d.record (showStatement table)).record
      (Database.dropTemporaryStatement table)) herase
    simpa [noting, InMemory.record] using hrecorded
  have hask : ask (LoadError.loadFailed routine) (inMemory.callRoutine routine) s =
      .ok () { s with database := called } := ask_eq_ok_iff.2 ⟨called, hcall, rfl⟩
  have hdescribe := attempt_eq (inMemory.describeTable table)
    { s with database := called }
  rw [describeTable_state] at hdescribe
  have hdropping := attempt_eq (inMemory.dropTemporaryTable table)
    { s with database := called.record (showStatement table) }
  simp only [hdropped] at hdropping
  unfold describeCreated
  rw [bind_of_ok hask, bind_of_ok hdescribe, bind_of_ok hdropping]
  cases hdescribed : (inMemory.describeTable table called).1 with
  | ok columns =>
    have hcreated := contains_of_describeTable hdescribed htables
    have hthere : (called.record (showStatement table)).temporaryTables.contains table = true :=
      hcreated
    rw [if_pos hthere]
    exact ⟨_, rfl, hstate⟩
  | error e =>
    split
    · exact ⟨_, rfl, hstate⟩
    · exact ⟨_, rfl, hstate⟩

/-- What is noted while the table of a bulk insert is described: one question for a permanent table;
    otherwise a call that fails, or one that is followed by the question and the drop. -/
def Notes (routine table : String) (d : InMemory) (statements calls : List String) : Prop :=
  if d.tables.contains table then statements = [showStatement table] ∧ calls = []
  else
    (statements = [Database.callStatement routine] ∧ calls = []) ∨
      (statements = [Database.callStatement routine, showStatement table,
        Database.dropTemporaryStatement table] ∧ calls = [routine])

/-- Resolving the columns is describing the table, without a trace but for what is noted, and
    comparing its columns with those that are listed. -/
theorem resolveColumns_eq_checkColumns (listed : List String)
    (hcreates : ∀ created ∈ s.database.temporaryOnCall.get? routine, created.1 = table)
    (hfresh : s.database.temporaryTables.get? table = none)
    (hdrop : s.database.rejection? (Database.dropTemporaryStatement table) = none) :
    ∃ s' statements calls, Notes routine table s.database statements calls ∧
      s'.database = s.database.noting statements calls ∧
      resolveColumns inMemory routine (.bulkInsert table listed) s =
        checkColumns routine table listed (shown routine table s.database) s' := by
  have hask : ask (LoadError.loadFailed routine) (inMemory.tableExists table) s =
      .ok (s.database.tables.contains table) s := rfl
  rw [resolveColumns_bulkInsert, bind_of_ok hask]
  unfold Notes shown
  cases htable : s.database.tables.contains table with
  | true =>
    -- a permanent table is described without a call
    have hdescribe := attempt_eq (inMemory.describeTable table) s
    rw [describeTable_state] at hdescribe
    refine ⟨_, _, _, ⟨rfl, rfl⟩, ?_, bind_of_ok hdescribe⟩
    simp [noting, InMemory.record]
  | false =>
    -- any other table has to be created by a call, which may fail
    rcases hcall : inMemory.callRoutine routine s.database with ⟨e | u, called⟩
    · have hcalling : ask (LoadError.loadFailed routine) (inMemory.callRoutine routine) s =
          .error (.loadFailed routine e) { s with database := called } :=
        ask_eq_error_iff.2 ⟨e, called, hcall, rfl, rfl⟩
      have hcreate : describeCreated inMemory routine table s = _ := bind_of_error hcalling
      refine ⟨_, _, _, .inl ⟨rfl, rfl⟩, ?_, bind_of_error hcreate⟩
      rw [inMemory_callRoutine] at hcall
      rw [statement_eq_error hcall]
      simp [noting, InMemory.record]
    · obtain ⟨s', hcreate, hstate⟩ :=
        describeCreated_restores hcreates hfresh hdrop htable hcall
      exact ⟨s', _, _, .inr ⟨rfl, rfl⟩, hstate, bind_of_ok hcreate⟩

/-- Whatever comes of it, resolving the columns of a bulk insert leaves the temporary tables, the
    tables, the routines and the session as they were. The routine is called at most once, and never
    for a permanent table. The columns are found exactly if the table could be described and has as
    many of them as are listed. -/
theorem resolveColumns_restores (listed : List String)
    (hcreates : ∀ created ∈ s.database.temporaryOnCall.get? routine, created.1 = table)
    (hfresh : s.database.temporaryTables.get? table = none)
    (hdrop : s.database.rejection? (Database.dropTemporaryStatement table) = none) :
    (∃ statements calls, Notes routine table s.database statements calls ∧
      databaseOf (resolveColumns inMemory routine (.bulkInsert table listed) s) =
        s.database.noting statements calls) ∧
    (∀ shape, (∃ s', resolveColumns inMemory routine (.bulkInsert table listed) s = .ok shape s') ↔
      ∃ columns, shown routine table s.database = .ok columns ∧
        listed.length = columns.length ∧
        some ⟨columns.map (·.field), columns.map fun c => baseType c.columnType⟩ = shape) ∧
    ∀ e, (∃ s', resolveColumns inMemory routine (.bulkInsert table listed) s = .error e s') ↔
      (∃ c, shown routine table s.database = .error c ∧ .loadFailed routine c = e) ∨
      ∃ columns, shown routine table s.database = .ok columns ∧
        listed.length ≠ columns.length ∧
        .columnCountMismatch table listed.length columns.length = e := by
  obtain ⟨s', statements, calls, hnotes, hstate, hresolve⟩ :=
    resolveColumns_eq_checkColumns listed hcreates hfresh hdrop
  rw [hresolve]
  refine ⟨⟨statements, calls, hnotes, ?_⟩, fun shape => ?_, fun e => ?_⟩
  · rw [← hstate]
    cases hcheck : checkColumns routine table listed (shown routine table s.database) s' with
    | ok shape t =>
      obtain ⟨rfl, -⟩ := checkColumns_eq_ok_iff.1 hcheck
      rfl
    | error e t =>
      obtain ⟨rfl, -⟩ := checkColumns_eq_error_iff.1 hcheck
      rfl
  · simp only [checkColumns_eq_ok_iff, exists_eq_left']
    rfl
  · simp only [checkColumns_eq_error_iff, exists_eq_left']

/-- The columns of the table that `fill_stage` creates when it is called. -/
def stageColumns : List TableColumn :=
  [⟨"id", "int(10) unsigned"⟩, ⟨"name", "varchar(64)"⟩]

/-- A database in which a call of the procedure creates the table. -/
def stageDatabase : InMemory :=
  { InMemory.empty with
    routines :=
      .ofList [("fill_stage", ⟨.procedure, "create procedure fill_stage()", ⟨"", "", ""⟩⟩)]
    temporaryOnCall := .ofList [("fill_stage", ("stage", stageColumns))] }

/-- The table is created, described and dropped again. -/
theorem resolveColumns_restores_stage :
    (∃ statements calls, Notes "fill_stage" "stage" stageDatabase statements calls ∧
      databaseOf (resolveColumns inMemory "fill_stage" (.bulkInsert "stage" ["a", "b"])
        ⟨stageDatabase, []⟩) = stageDatabase.noting statements calls) ∧
    ∃ s', resolveColumns inMemory "fill_stage" (.bulkInsert "stage" ["a", "b"])
      ⟨stageDatabase, []⟩ = .ok (some ⟨["id", "name"], ["int", "varchar"]⟩) s' := by
  have hcreates : ∀ created ∈ stageDatabase.temporaryOnCall.get? "fill_stage",
      created.1 = "stage" := by decide +kernel
  have hfresh : stageDatabase.temporaryTables.get? "stage" = none := rfl
  have hdrop : stageDatabase.rejection? (Database.dropTemporaryStatement "stage") = none := rfl
  obtain ⟨hstate, hok, -⟩ :=
    resolveColumns_restores (s := ⟨stageDatabase, []⟩) ["a", "b"] hcreates hfresh hdrop
  exact ⟨hstate, (hok _).2 ⟨stageColumns, by decide +kernel, rfl, by decide +kernel⟩⟩

end Loading

end StoredRoutines
