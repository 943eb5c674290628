import StoredRoutines.Proofs.Json.RoundTrip
import StoredRoutines.Record.Json

/-!
# Reading records back

The records of all routines are read back from the text of their file.

## Main definitions

- `Json.Fields.ofRecord` — the fields of an object that names them in order

## Main results

- `Records.read?_print` — reading undoes writing
-/

namespace StoredRoutines

/-- A sorted map is made of its entries again. -/
theorem SortedMap.ofList_entries {α : Type} (m : SortedMap α) : SortedMap.ofList m.entries = m := by
  refine SortedMap.ext_get? fun k => ?_
  rw [SortedMap.get?_ofList]
  have hrev : ∀ l : List (String × α), (l.map (·.1)).Nodup → l.reverse.lookup k = l.lookup k := by
    intro l hl
    induction l with
    | nil => rfl
    | cons e rest ih =>
      rw [List.map_cons, List.nodup_cons] at hl
      rw [List.reverse_cons, List.lookup_append, ih hl.2, SortedMap.lookup_cons_if,
        SortedMap.lookup_cons_if]
      by_cases hk : k = e.1
      · have hnone : rest.lookup k = none := by
          refine List.lookup_eq_none_iff.2 fun x hx => ?_
          rw [hk]
          have hne : e.1 ≠ x.1 := fun h => hl.1 (h ▸ List.mem_map_of_mem hx)
          simpa using hne
        simp [hk, hk ▸ hnone]
      · simp [hk]
  refine hrev _ (m.keys_sorted.imp ?_)
  rintro a _ h rfl
  exact String.lt_irrefl _ h

namespace Json

/-! ### Values without fractions -/

theorem whole_text (s : String) : Whole (.text s) := .string _

theorem whole_record {members : List (String × Json)} (h : ∀ m ∈ members, Whole m.2) :
    Whole (.record members) := by
  refine .object fun m hm => ?_
  obtain ⟨m', hm', rfl⟩ := List.mem_map.1 hm
  exact h m' hm'

theorem whole_ofOption {α : Type} {write : α → Json} (h : ∀ a, Whole (write a)) (o : Option α) :
    Whole (ofOption write o) := by
  cases o with
  | none => exact .null
  | some a => exact h a

theorem whole_ofList {α : Type} {write : α → Json} (h : ∀ a, Whole (write a)) (l : List α) :
    Whole (ofList write l) := by
  refine .array fun v hv => ?_
  obtain ⟨a, -, rfl⟩ := List.mem_map.1 hv
  exact h a

theorem whole_ofMap {α : Type} {write : α → Json} (h : ∀ a, Whole (write a)) (m : SortedMap α) :
    Whole (ofMap write m) := by
  refine .object fun v hv => ?_
  obtain ⟨e, -, rfl⟩ := List.mem_map.1 hv
  exact h e.2

/-! ### Fields -/

theorem names?_record (members : List (String × Json)) :
    names? (members.map fun m => (some m.1, m.2)) = some members := by
  induction members with
  | nil => rfl
  | cons m ms ih =>
    unfold names? at ih ⊢
    rw [List.map_cons, List.mapM_cons, ih]
    rfl

/-- A list is read again if each of its elements is. -/
theorem mapM_map_eq_some {α β γ : Type} {w : α → β} {f : β → Option γ} {g : α → γ} {l : List α}
    (h : ∀ a ∈ l, f (w a) = some (g a)) : (l.map w).mapM f = some (l.map g) := by
  induction l with
  | nil => rfl
  | cons a l ih =>
    rw [List.map_cons, List.mapM_cons, h a List.mem_cons_self,
      ih fun b hb => h b (List.mem_cons_of_mem _ hb)]
    rfl

/-- A member that is written is found by its name. -/
theorem field?_of_mem {members : List (String × Json)} {m : String × Json}
    (hnodup : (members.map (·.1)).Nodup) (h : m ∈ members) :
    field? members m.1 = some (some m.2) := by
  have hfilter : members.filter (fun x => x.1 == m.1) = [m] := by
    induction members with
    | nil => cases h
    | cons x xs ih =>
      rw [List.map_cons, List.nodup_cons] at hnodup
      rcases List.mem_cons.1 h with rfl | h
      · have hnone : xs.filter (fun x => x.1 == m.1) = [] := by
          refine List.filter_eq_nil_iff.2 fun y hy hym => ?_
          have heq : y.1 = m.1 := by simpa using hym
          exact hnodup.1 (heq ▸ List.mem_map_of_mem hy)
        rw [List.filter_cons, hnone]
        simp
      · have hne : (x.1 == m.1) = false := by
          refine beq_eq_false_iff_ne.2 fun hxm => hnodup.1 ?_
          rw [hxm]
          exact List.mem_map_of_mem h
        rw [List.filter_cons, hne]
        exact ih hnodup.2 h
  rw [field?, hfilter]

theorem field?_of_notMem {members : List (String × Json)} {name : String}
    (h : name ∉ members.map (·.1)) : field? members name = some none := by
  have hfilter : members.filter (fun x => x.1 == name) = [] := by
    refine List.filter_eq_nil_iff.2 fun y hy hym => ?_
    have heq : y.1 = name := by simpa using hym
    exact h (heq ▸ List.mem_map_of_mem hy)
  rw [field?, hfilter]

/-- The fields of an object that gives the first of them by name and in order. -/
def Fields.ofRecord (members : List (String × Json)) (missing : List String) : Fields where
  named := true
  values := members.map (fun m => some m.2) ++ missing.map fun _ => none

/-- The fields of a record are its members and those that are missing. -/
theorem fields?_record {names missing : List String} {members : List (String × Json)}
    (hnames : names = members.map (·.1) ++ missing) (hnodup : names.Nodup) :
    fields? names (.record members) = some (.ofRecord members missing) := by
  subst hnames
  obtain ⟨hmembers, -, hdisjoint⟩ := List.nodup_append.1 hnodup
  have hgiven : (members.map (·.1)).mapM (field? members) =
      some (members.map fun m => some m.2) :=
    mapM_map_eq_some fun m hm => field?_of_mem hmembers hm
  have hmissing : missing.mapM (field? members) = some (missing.map fun _ => none) := by
    have hm := mapM_map_eq_some (w := id) (f := field? members) (g := fun _ => none)
      fun name (hname : name ∈ missing) => field?_of_notMem fun h => hdisjoint _ h _ hname rfl
    rw [List.map_id] at hm
    exact hm
  simp only [fields?, Json.record, names?_record, Option.bind_eq_bind, Option.bind_some,
    List.mapM_append, hgiven, hmissing]
  rfl

theorem required_of_at? {α : Type} {f : Fields} {i : Nat} {read : Json → Option α} {v : Json}
    (h : f.at? i = some v) : f.required i read = read v := by
  rw [Fields.required, h, Option.bind_some]

theorem withDefault_of_at? {α : Type} {f : Fields} {i : Nat} {read : Json → Option α} {default : α}
    {v : Json} (h : f.at? i = some v) : f.withDefault i default read = read v := by
  rw [Fields.withDefault, h]

/-- An optional field is read, and without a value it is null. -/
theorem optional_of_at? {α : Type} {f : Fields} {i : Nat} {read : Json → Option α}
    {write : α → Json} {o : Option α} (h : f.at? i = some (ofOption write o))
    (hnull : ∀ a, write a ≠ .null) (hread : ∀ a, read (write a) = some a) :
    f.optional i read = some o := by
  rw [Fields.optional, h]
  cases o with
  | none => rfl
  | some a =>
    have hne := hnull a
    unfold ofOption
    split
    · next heq => cases heq
    · next heq => exact absurd (Option.some.inj heq) hne
    · next v _ heq =>
      rw [← Option.some.inj heq, hread a]
      rfl

theorem list?_ofList {α : Type} {read : Json → Option α} {write : α → Json}
    (h : ∀ a, read (write a) = some a) (l : List α) : list? read (ofList write l) = some l := by
  rw [ofList, list?, mapM_map_eq_some (g := id) fun a _ => h a, List.map_id]

theorem map?_ofMap {α : Type} {read : Json → Option α} {write : α → Json}
    (h : ∀ a, read (write a) = some a) (m : SortedMap α) : map? read (ofMap write m) = some m := by
  have hnames : names? (m.entries.map fun e => (some e.1, write e.2)) =
      some (m.entries.map fun e => (e.1, write e.2)) := by
    have hr := names?_record (m.entries.map fun e => (e.1, write e.2))
    rw [List.map_map] at hr
    exact hr
  have hentries : (m.entries.map fun e => (e.1, write e.2)).mapM
      (fun x => (read x.2).map fun v => (x.1, v)) = some m.entries := by
    rw [mapM_map_eq_some (g := id) fun e _ => by rw [h e.2]; rfl, List.map_id]
  simp only [map?, ofMap, hnames, Option.bind_eq_bind, Option.bind_some, hentries,
    SortedMap.ofList_entries]

theorem text?_text (s : String) : text? (.text s) = some s := rfl

theorem char?_singleton (c : Char) : char? (.text (String.singleton c)) = some c := by
  have hc : (String.singleton c).toList = [c] := by simp
  simp [char?, text?, Json.text, hc]

theorem int64?_int (n : Int64) : int64? (.int n.toInt) = some n := by
  have hfits : fitsInt64 n.toInt = true := by
    simp only [fitsInt64, Bool.and_eq_true, decide_eq_true_eq]
    exact ⟨n.minValue_le_toInt, n.toInt_le⟩
  simp only [int64?, Json.int, readInt?_writeInt, hfits, if_true, Int64.ofInt_toInt]

end Json

/-! ### Records -/

theorem RoutineKind.ofJson?_toJson (kind : RoutineKind) : ofJson? kind.toJson = some kind := by
  cases kind <;> rfl

namespace ListParameter

theorem toJson_whole (p : ListParameter) : p.toJson.Whole :=
  Json.whole_record (by simp [Json.whole_text])

theorem ofJson?_toJson (p : ListParameter) : ofJson? p.toJson = some p := by
  have hf : Json.fields? fieldNames p.toJson = some (.ofRecord _ []) :=
    Json.fields?_record rfl (by decide)
  rw [ofJson?, hf]
  simp [Json.Fields.required, Json.Fields.at?, Json.Fields.ofRecord, Json.char?_singleton]
  rfl

end ListParameter

namespace RoutineParameter

theorem toJson_whole (p : RoutineParameter) : p.toJson.Whole := by
  refine Json.whole_record fun m hm => ?_
  rcases List.mem_append.1 hm with hm | hm
  · revert m
    simp [Json.whole_text, Json.whole_ofOption Json.whole_text]
  · obtain ⟨f, -, rfl⟩ := List.mem_map.1 hm
    exact f.toJson_whole

/-- A format that is written is not taken for a missing one. -/
theorem nullable?_toJson (f : ListParameter) :
    Json.nullable? ListParameter.ofJson? f.toJson = some (some f) := by
  change (ListParameter.ofJson? f.toJson).map some = _
  rw [f.ofJson?_toJson, Option.map_some]

theorem ofJson?_toJson (p : RoutineParameter) : ofJson? p.toJson = some p := by
  obtain ⟨name, dataType, declaredType, characterSet, collation, descriptor, format⟩ := p
  have hnull : ∀ s, Json.text s ≠ .null := nofun
  cases format with
  | none =>
    have hf : Json.fields? fieldNames (toJson ⟨name, dataType, declaredType, characterSet,
        collation, descriptor, none⟩) = some (.ofRecord _ ["format"]) :=
      Json.fields?_record rfl (by decide)
    rw [ofJson?, hf]
    rw [Option.bind_eq_bind, Option.bind_some]
    rw [Json.optional_of_at? (i := 3) (o := characterSet) rfl hnull Json.text?_text,
      Json.optional_of_at? (i := 4) (o := collation) rfl hnull Json.text?_text]
    rfl
  | some f =>
    have hf : Json.fields? fieldNames (toJson ⟨name, dataType, declaredType, characterSet,
        collation, descriptor, some f⟩) = some (.ofRecord _ []) :=
      Json.fields?_record rfl (by decide)
    rw [ofJson?, hf]
    rw [Option.bind_eq_bind, Option.bind_some]
    rw [Json.optional_of_at? (i := 3) (o := characterSet) rfl hnull Json.text?_text,
      Json.optional_of_at? (i := 4) (o := collation) rfl hnull Json.text?_text,
      Json.withDefault_of_at? (i := 6) (v := f.toJson) rfl, nullable?_toJson]
    rfl

end RoutineParameter

namespace WrapperParameter

theorem toJson_whole (p : WrapperParameter) : p.toJson.Whole :=
  Json.whole_record (by simp [Json.whole_text, Json.whole_ofOption Json.whole_text])

theorem ofJson?_toJson (p : WrapperParameter) : ofJson? p.toJson = some p := by
  have hf : Json.fields? fieldNames p.toJson = some (.ofRecord _ []) :=
    Json.fields?_record rfl (by decide)
  have hnull : ∀ s, Json.text s ≠ .null := nofun
  rw [ofJson?, hf]
  rw [Option.bind_eq_bind, Option.bind_some]
  rw [Json.optional_of_at? (i := 3) (o := p.description) rfl hnull Json.text?_text]
  rfl

end WrapperParameter

namespace WrapperDoc

theorem toJson_whole (d : WrapperDoc) : d.toJson.Whole :=
  Json.whole_record
    (by simp [Json.whole_text, Json.whole_ofList WrapperParameter.toJson_whole])

theorem ofJson?_toJson (d : WrapperDoc) : ofJson? d.toJson = some d := by
  have hf : Json.fields? fieldNames d.toJson = some (.ofRecord _ []) :=
    Json.fields?_record rfl (by decide)
  rw [ofJson?, hf]
  rw [Option.bind_eq_bind, Option.bind_some]
  rw [Json.required_of_at? (i := 2) (v := Json.ofList WrapperParameter.toJson d.parameters) rfl,
    Json.list?_ofList WrapperParameter.ofJson?_toJson]
  rfl

end WrapperDoc

namespace RoutineRecord

theorem textsToJson_whole (l : List String) : (textsToJson l).Whole :=
  Json.whole_ofList Json.whole_text l

theorem list?_textsToJson (l : List String) : Json.list? Json.text? (textsToJson l) = some l :=
  Json.list?_ofList Json.text?_text l

theorem toJson_whole (r : RoutineRecord) : r.toJson.Whole := by
  refine Json.whole_record ?_
  simp only [List.mem_cons, List.not_mem_nil, or_false, forall_eq_or_imp, forall_eq]
  exact ⟨Json.whole_text _, Json.whole_text _, Json.whole_text _,
    Json.whole_ofOption Json.whole_text _, Json.whole_ofOption Json.whole_text _,
    Json.whole_ofList RoutineParameter.toJson_whole _, Json.whole_ofOption textsToJson_whole _,
    Json.whole_ofOption textsToJson_whole _, Json.whole_ofOption textsToJson_whole _, .int _,
    Json.whole_ofMap Json.whole_text _, r.doc.toJson_whole,
    Json.whole_ofList ListParameter.toJson_whole _⟩

theorem ofJson?_toJson (r : RoutineRecord) : ofJson? r.toJson = some r := by
  have hf : Json.fields? fieldNames r.toJson = some (.ofRecord _ []) :=
    Json.fields?_record rfl (by decide)
  have htext : ∀ s, Json.text s ≠ .null := nofun
  have htexts : ∀ l, textsToJson l ≠ .null := nofun
  rw [ofJson?, hf]
  rw [Option.bind_eq_bind, Option.bind_some]
  rw [Json.required_of_at? (i := 1) (v := r.kind.toJson) rfl, RoutineKind.ofJson?_toJson,
    Json.optional_of_at? (i := 3) (o := r.returnType) rfl htext Json.text?_text,
    Json.optional_of_at? (i := 4) (o := r.table) rfl htext Json.text?_text,
    Json.required_of_at? (i := 5) (v := Json.ofList RoutineParameter.toJson r.parameters) rfl,
    Json.list?_ofList RoutineParameter.ofJson?_toJson,
    Json.optional_of_at? (i := 6) (o := r.columns) rfl htexts list?_textsToJson,
    Json.optional_of_at? (i := 7) (o := r.fields) rfl htexts list?_textsToJson,
    Json.optional_of_at? (i := 8) (o := r.columnTypes) rfl htexts list?_textsToJson,
    Json.required_of_at? (i := 9) (v := .int r.timestamp.toInt) rfl, Json.int64?_int,
    Json.required_of_at? (i := 10) (v := Json.ofMap .text r.replace) rfl,
    Json.map?_ofMap Json.text?_text,
    Json.required_of_at? (i := 11) (v := r.doc.toJson) rfl, WrapperDoc.ofJson?_toJson,
    Json.withDefault_of_at? (i := 12)
      (v := Json.ofList ListParameter.toJson r.listParameters) rfl,
    Json.list?_ofList ListParameter.ofJson?_toJson]
  rfl

end RoutineRecord

namespace Records

/-- The records of a file are those that were written to it. -/
theorem read?_print (records : SortedMap RoutineRecord) : read? (print records) = some records := by
  have hread := Json.read?_print (v := .record [("routines",
    Json.ofMap RoutineRecord.toJson records)]) (Json.whole_record
      (by simp [Json.whole_ofMap RoutineRecord.toJson_whole]))
  have hf : Json.fields? fieldNames (.record [("routines",
      Json.ofMap RoutineRecord.toJson records)]) = some (.ofRecord _ []) :=
    Json.fields?_record rfl (by decide)
  rw [read?, print, hread]
  simp only [Option.bind_eq_bind, Option.bind_some, hf]
  rw [Json.withDefault_of_at? (i := 0) (v := Json.ofMap RoutineRecord.toJson records) rfl,
    Json.map?_ofMap RoutineRecord.ofJson?_toJson]

end Records

end StoredRoutines
