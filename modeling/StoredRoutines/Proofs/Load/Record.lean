import StoredRoutines.Proofs.Directive.Accepted
import StoredRoutines.Proofs.Load.Parameters
import StoredRoutines.Proofs.Reload

/-!
# The record of a load

The fields of a record come from the path, the directives, the declaration and the doc block of its
source, and from the answers of the catalog. However the database answers, they fit together.

## Main definitions

- `Designation.Fitted` — the columns of the table that goes with a designation
- `RoutineRecord.WellFormed` — what the fields of a record have to do with each other

## Main results

- `Loading.record_wellFormed` — a load that succeeds returns such a record
-/

namespace StoredRoutines

/-- The columns that were found go with a designation: a bulk insert lists as many columns as its
    table has, and nothing else has a table. -/
def Designation.Fitted (d : Designation) (shape : Option TableShape) : Prop :=
  match d with
  | .bulkInsert _ listed =>
    ∃ columns, shape = some (TableShape.ofColumns columns) ∧ listed.length = columns.length
  | _ => shape = none

namespace Designation

variable {d : Designation} {shape : Option TableShape}

theorem Fitted.isSome (h : d.Fitted shape) : shape.isSome ↔ d.table?.isSome := by
  cases d with
  | bulkInsert table listed =>
    obtain ⟨columns, rfl, -⟩ := h
    simp [table?]
  | rowsWithKey _ | rowsWithIndex _ | plain _ =>
    cases h
    simp [table?]

/-- A shape has a field and a type for each of the columns. -/
theorem Fitted.same_length (h : d.Fitted shape) (htable : d.table?.isSome) :
    ∃ columns fields columnTypes, d.columns? = some columns ∧
      shape.map (·.fields) = some fields ∧ shape.map (·.columnTypes) = some columnTypes ∧
      fields.length = columns.length ∧ columnTypes.length = columns.length := by
  cases d with
  | bulkInsert table listed =>
    obtain ⟨columns, rfl, hlength⟩ := h
    refine ⟨listed, _, _, rfl, rfl, rfl, ?_, ?_⟩
    · rw [hlength, TableShape.ofColumns, List.length_map]
    · rw [hlength, TableShape.ofColumns, List.length_map]
  | rowsWithKey _ | rowsWithIndex _ | plain _ => cases htable

end Designation

/-- The fields of a record fit together, and they fit its source under the values of a table. -/
structure RoutineRecord.WellFormed (source : Source) (table : Placeholder.Table)
    (r : RoutineRecord) : Prop where
  name : r.name = source.path.stem
  timestamp : r.timestamp = source.mtime
  replace_keys : ∀ token, token ∈ r.replace.keys ↔ token ∈ Placeholder.tokens source.text
  replace_values : ∀ token ∈ r.replace.keys, r.replace.get? token = table.get? token
  table_isSome : r.table.isSome ↔ r.designation = "bulk_insert"
  fields_isSome : r.fields.isSome ↔ r.designation = "bulk_insert"
  columnTypes_isSome : r.columnTypes.isSome ↔ r.designation = "bulk_insert"
  same_length : r.designation = "bulk_insert" → ∃ columns fields columnTypes,
    r.columns = some columns ∧ r.fields = some fields ∧ r.columnTypes = some columnTypes ∧
      fields.length = columns.length ∧ columnTypes.length = columns.length
  columns_isSome : r.columns.isSome ↔
    r.designation ∈ ["bulk_insert", "rows_with_key", "rows_with_index"]
  returnType_isSome : r.returnType.isSome ↔
    r.designation ∈ ["function", "singleton0", "singleton1"]
  returnType_allowed : ∀ t, r.returnType = some t → ReturnType.Allowed t
  parameters_named : ∀ p ∈ r.parameters, p.name ≠ ""
  listParameters_nodup : (r.listParameters.map (·.name)).Nodup
  listParameters_known : ∀ l ∈ r.listParameters, l.name ∈ r.parameters.map (·.name)
  formatted : RoutineParameter.Formatted r.listParameters r.parameters
  documented : r.doc.parameters.map (fun p => (p.name, p.descriptor)) =
    r.parameters.map fun p => (p.name, p.descriptor)

namespace Loading

section

variable {σ : Type} {db : Database σ} {s s' : Session σ}

theorem checkColumns_eq_ok {routine table : String} {listed : List String}
    {described : Except DatabaseError (List TableColumn)} {shape : Option TableShape}
    (h : checkColumns routine table listed described s = .ok shape s') :
    (Designation.bulkInsert table listed).Fitted shape := by
  obtain ⟨-, columns, -, hlength, rfl⟩ := checkColumns_eq_ok_iff.1 h
  exact ⟨columns, rfl, hlength⟩

theorem resolveColumns_eq_ok {routine : String} {d : Designation} {shape : Option TableShape}
    (h : resolveColumns db routine d s = .ok shape s') : d.Fitted shape := by
  cases d with
  | bulkInsert table listed =>
    rw [resolveColumns_bulkInsert] at h
    obtain ⟨permanent, t, -, h⟩ := bind_eq_ok_iff.1 h
    obtain ⟨described, u, -, h⟩ := bind_eq_ok_iff.1 h
    exact checkColumns_eq_ok h
  | rowsWithKey _ | rowsWithIndex _ | plain _ => exact (pure_eq_ok_iff.1 h).1.symm

/-- What is reconciled fits the designation, and the parameters are merged with those of the
    catalog. -/
theorem reconcile_eq_ok {parsed : ParsedRoutine} {shape : Option TableShape}
    {parameters : List RoutineParameter}
    (h : reconcile db parsed s = .ok (shape, parameters) s') :
    parsed.directives.designation.Fitted shape ∧
      ∃ catalog, RoutineParameter.merge catalog parsed.directives.listParameters =
        .ok parameters := by
  obtain ⟨found, t, ht, h⟩ := bind_eq_ok_iff.1 h
  obtain ⟨merged, u, hu, h⟩ := bind_eq_ok_iff.1 h
  obtain ⟨_, v, -, h⟩ := bind_eq_ok_iff.1 h
  obtain ⟨heq, -⟩ := pure_eq_ok_iff.1 h
  obtain ⟨rfl, rfl⟩ := Prod.mk.inj heq
  obtain ⟨catalog, _, -, hmerge⟩ := bind_eq_ok_iff.1 hu
  exact ⟨resolveColumns_eq_ok ht, catalog, (ofExcept_eq_ok_iff.1 hmerge).1⟩

end

/-- However the database answers, the record of a load that succeeds is well formed. -/
theorem record_wellFormed {σ : Type} {db : Database σ} {source : Source} {context : LoadContext}
    {s s' : Session σ} {record : RoutineRecord}
    (h : routine db source context s = .ok record s') :
    record.WellFormed source context.table := by
  obtain ⟨parsed, d, notices, shape, parameters, hparse, -, hreconcile, rfl⟩ := routine_findings h
  obtain ⟨hfitted, catalog, hmerge⟩ := reconcile_eq_ok hreconcile
  obtain ⟨hname, hcomplete, -, hsignature, hlines⟩ := parse_eq_ok hparse
  obtain ⟨header, -, hdesignation, hlist, -⟩ := Directives.ofLines_eq_ok hlines
  have hproper := Designation.proper_of_ofHeader hdesignation
  have hnodup := ListParameter.ofHeader_nodup hlist
  obtain ⟨hnamed, hknown, hformatted⟩ := RoutineParameter.merge_eq_ok hnodup hmerge
  have hshape : shape.isSome ↔ parsed.directives.designation.kind = "bulk_insert" :=
    hfitted.isSome.trans hproper.table?_isSome_iff
  -- the keys that a record leaves out are no tokens
  have hrecordOf : RecordOf source parsed (findings source parsed shape parameters).record :=
    ⟨rfl, rfl, rfl, rfl⟩
  have hreplace := hrecordOf.get?_replace hparse
  have hsome := (Placeholder.complete_eq_ok.1 hcomplete).1
  have hkeys : ∀ token, token ∈ (findings source parsed shape parameters).record.replace.keys ↔
      token ∈ Placeholder.tokens source.text := fun token => by
    rw [SortedMap.mem_keys_iff, hreplace]
    split
    next hmem => exact iff_of_true (hsome token hmem) hmem
    next hmem => exact iff_of_false nofun hmem
  exact
    { name := hsignature
      timestamp := rfl
      replace_keys := hkeys
      replace_values := fun token hmem => by rw [hreplace, if_pos ((hkeys token).1 hmem)]
      table_isSome := hproper.table?_isSome_iff
      fields_isSome := by rwa [← Option.isSome_map] at hshape
      columnTypes_isSome := by rwa [← Option.isSome_map] at hshape
      same_length := fun hkind => hfitted.same_length (hproper.table?_isSome_iff.2 hkind)
      columns_isSome := hproper.columns?_isSome_iff
      returnType_isSome := Directives.returnType_isSome_iff hlines
      returnType_allowed := fun t ht => ReturnType.check_eq_ok_iff.1 (parse_returnType hparse ht)
      parameters_named := hnamed
      listParameters_nodup := hnodup
      listParameters_known := hknown
      formatted := hformatted
      documented := by
        change (parameters.map (Findings.wrapperParameter parsed.doc)).map _ = _
        rw [List.map_map]
        rfl }

/-! ### A bulk insert with a list -/

/-- A source that takes a list, and inserts rows into a table of two columns. -/
def orders : Source where
  path := ⟨"/psql/orders.psql"⟩
  text := "create procedure orders(in p_ids text)\n-- type: bulk_insert item id,amount\n" ++
    "-- param: p_ids int\nbegin\nselect @LIMIT@;\nend\n"
  mtime := 1000

/-- The placeholder and the session for the source, which has not been loaded before. -/
def ordersContext : LoadContext :=
  ⟨.ofList [("@limit@", "10")], ⟨"ANSI", "utf8mb4", "utf8mb4_bin"⟩, none⟩

/-- A database with the parameter and the table of the source. -/
def ordersDatabase : InMemory :=
  { InMemory.empty with
    parameters := .ofList [("orders", [⟨some "p_ids", "text", "text", some "utf8mb4", none⟩])]
    tables := .ofList [("item", [⟨"id", "int(11)"⟩, ⟨"amount", "decimal(10,2)"⟩])] }

/-- The record that is made of the source. -/
def ordersRecord : RoutineRecord where
  name := "orders"
  kind := .procedure
  designation := "bulk_insert"
  returnType := none
  table := some "item"
  parameters := [⟨"p_ids", "text", "text", some "utf8mb4", none, "text character set utf8mb4",
    some ⟨"p_ids", "int", ',', '\"', '\\'⟩⟩]
  columns := some ["id", "amount"]
  fields := some ["id", "amount"]
  columnTypes := some ["int", "decimal"]
  timestamp := 1000
  replace := .ofList [("@LIMIT@", "10")]
  doc := ⟨"", "", [⟨"p_ids", "string", "text character set utf8mb4", none⟩]⟩
  listParameters := [⟨"p_ids", "int", ',', '\"', '\\'⟩]

/-- The condition can be met. -/
theorem record_wellFormed_orders :
    answer? (routine inMemory orders ordersContext ⟨ordersDatabase, []⟩) = some ordersRecord ∧
      ordersRecord.WellFormed orders ordersContext.table := by
  have hload : answer? (routine inMemory orders ordersContext ⟨ordersDatabase, []⟩) =
      some ordersRecord := by decide +kernel
  exact ⟨hload, record_wellFormed (eq_ok_of_answer? hload)⟩

end Loading

end StoredRoutines
