import StoredRoutines.Directive.Header
import StoredRoutines.Proofs.Text.Pieces

/-!
# Accepted directives

What holds of the directives of a source once they have been read without an error.

## Main definitions

- `Designation.Proper` — a designation of the form that goes with its word
- `ReturnType.Allowed` — the return types that are allowed

## Main results

- `ReturnType.check_eq_ok_iff` — exactly these pass the check
- `ListParameter.ofHeader_nodup` — no parameter has two directives
- `Directives.ofLines_eq_ok` — what the directives of a source consist of
-/

namespace StoredRoutines

namespace Designation

/-- The words of the designations that list columns. -/
def columnKinds : List String := ["bulk_insert", "rows_with_key", "rows_with_index"]

/-- A designation without columns does not have the word of one with columns. -/
def Proper : Designation → Prop
  | plain kind => kind ∉ columnKinds
  | _ => True

theorem Proper.table?_isSome_iff {d : Designation} (h : d.Proper) :
    d.table?.isSome ↔ d.kind = "bulk_insert" := by
  cases d with
  | bulkInsert table columns => simp [table?, kind]
  | rowsWithKey columns => simp [table?, kind]
  | rowsWithIndex columns => simp [table?, kind]
  | plain word =>
    simp only [table?, kind, Option.isSome_none, Bool.false_eq_true, false_iff]
    rintro rfl
    exact h (by simp [columnKinds])

theorem Proper.columns?_isSome_iff {d : Designation} (h : d.Proper) :
    d.columns?.isSome ↔ d.kind ∈ columnKinds := by
  cases d with
  | bulkInsert table columns => simp [columns?, kind, columnKinds]
  | rowsWithKey columns => simp [columns?, kind, columnKinds]
  | rowsWithIndex columns => simp [columns?, kind, columnKinds]
  | plain word =>
    have hword : word ∉ columnKinds := h
    simpa [columns?, kind] using hword

/-- Arguments that are accepted give a proper designation. -/
theorem proper_of_ofArguments {kind : String} {raw : Option String} {d : Designation}
    (h : ofArguments kind raw = .ok d) : d.Proper := by
  unfold ofArguments at h
  simp only at h
  split at h
  · split at h
    · cases h
      trivial
    · cases h
  next hbulk =>
  split at h
  · cases h
    trivial
  next hkey =>
  split at h
  · cases h
    trivial
  next hindex =>
  split at h
  · cases h
    simpa [Proper, columnKinds] using ⟨hbulk, hkey, hindex⟩
  · cases h

/-- A header that is accepted gives a proper designation. -/
theorem proper_of_ofHeader {header : List String} {d : Designation}
    (h : ofHeader header = .ok d) : d.Proper := by
  unfold ofHeader at h
  split at h
  · exact proper_of_ofArguments h
  · cases h

end Designation

namespace ReturnType

/-- Vertical bars join words again that stand between vertical bars. -/
theorem intercalate_words (t : String) :
    "|".intercalate ((Text.splitOn '|' t.toList).map String.ofList) = t := by
  refine String.toList_inj.1 ?_
  rw [String.toList_intercalate, List.map_map]
  have hid : String.toList ∘ String.ofList = id := funext fun _ => String.toList_ofList
  rw [hid, List.map_id]
  exact Text.intercalate_splitOn '|' t.toList

theorem words_intercalate {words : List String} (hne : words ≠ [])
    (h : ∀ w ∈ words, w ∈ scalars) :
    (Text.splitOn '|' ("|".intercalate words).toList).map String.ofList = words := by
  have hbar : ∀ w ∈ scalars, '|' ∉ w.toList := by decide
  rw [String.toList_intercalate, Text.splitOn_eq]
  have hpieces : ∀ piece ∈ words.map String.toList, '|' ∉ piece := fun piece hpiece => by
    obtain ⟨w, hw, rfl⟩ := List.mem_map.1 hpiece
    exact hbar w (h w hw)
  have hsplit := List.splitOn_intercalate '|' hpieces (by simpa using hne)
  change (List.splitOn '|' (List.intercalate ['|'] (words.map String.toList))).map _ = _
  rw [hsplit, List.map_map]
  have hid : String.ofList ∘ String.toList = id := funext fun _ => String.ofList_toList
  rw [hid, List.map_id]

/-- The return types that are allowed: two words of their own, and the scalars joined by vertical
    bars. -/
def Allowed (t : String) : Prop :=
  t = "mixed" ∨ t = "bool" ∨
    ∃ words, words ≠ [] ∧ (∀ w ∈ words, w ∈ scalars) ∧ t = "|".intercalate words

/-- The test decides the grammar of return types. -/
theorem isAllowed_iff {t : String} : isAllowed t = true ↔ Allowed t := by
  have hwords :
      ((Text.splitOn '|' t.toList).all fun part => scalars.contains (String.ofList part)) = true ↔
        ∃ words, words ≠ [] ∧ (∀ w ∈ words, w ∈ scalars) ∧ t = "|".intercalate words := by
    rw [List.all_eq_true]
    constructor
    · intro h
      refine ⟨_, ?_, fun w hw => ?_, (intercalate_words t).symm⟩
      · simpa using Text.splitOn_ne_nil '|' t.toList
      · obtain ⟨part, hpart, rfl⟩ := List.mem_map.1 hw
        exact List.contains_iff_mem.1 (h part hpart)
    · rintro ⟨words, hne, hscalars, rfl⟩ part hpart
      have hmem := List.mem_map_of_mem (f := String.ofList) hpart
      rw [words_intercalate hne hscalars] at hmem
      exact List.contains_iff_mem.2 (hscalars _ hmem)
  rw [isAllowed, Bool.or_eq_true, Bool.or_eq_true, hwords, beq_iff_eq, beq_iff_eq, or_assoc]
  rfl

/-- A return type is accepted exactly if it follows the grammar. -/
theorem check_eq_ok_iff {t : String} : check t = .ok () ↔ Allowed t := by
  rw [← isAllowed_iff, check]
  cases isAllowed t <;> simp

end ReturnType

namespace ListParameter

/-- The directives that are read name different parameters, and none that has been used. -/
theorem ofLines_eq_ok {number : Nat} {used lines : List String} {ps : List ListParameter}
    (h : ofLines number used lines = .ok ps) :
    (ps.map (·.name)).Nodup ∧ ∀ p ∈ ps, p.name ∉ used := by
  induction lines generalizing number used ps with
  | nil =>
    cases h
    exact ⟨List.nodup_nil, nofun⟩
  | cons line rest ih =>
    rw [ofLines] at h
    -- a line that is no parameter directive adds no name
    split at h
    · split at h
      · cases h
      next p hp =>
      split at h
      · cases h
      next hused =>
      cases hrest : ofLines (number + 1) (p.name :: used) rest with
      | error e =>
        rw [hrest] at h
        cases h
      | ok qs =>
        rw [hrest] at h
        obtain rfl := Except.ok.inj h
        obtain ⟨hnodup, hnew⟩ := ih hrest
        refine ⟨List.nodup_cons.2 ⟨fun hmem => ?_, hnodup⟩, fun q hq => ?_⟩
        · obtain ⟨q, hq, hname⟩ := List.mem_map.1 hmem
          exact hnew q hq (hname ▸ List.mem_cons_self)
        · rcases List.mem_cons.1 hq with rfl | hq
          · simpa using hused
          · exact fun hmem => hnew q hq (List.mem_cons_of_mem _ hmem)
    · exact ih h

theorem ofHeader_nodup {header : List String} {ps : List ListParameter}
    (h : ofHeader header = .ok ps) : (ps.map (·.name)).Nodup :=
  (ofLines_eq_ok h).1

end ListParameter

namespace Directives

/-- The directives of a source are read from its header. -/
theorem ofLines_eq_ok {lines : List String} {d : Directives} (h : ofLines lines = .ok d) :
    ∃ header, header? lines = some header ∧ Designation.ofHeader header = .ok d.designation ∧
      ListParameter.ofHeader header = .ok d.listParameters ∧
      d.returnType = returnTypeFor header d.designation := by
  unfold ofLines at h
  split at h
  · cases h
  next header hheader =>
  refine ⟨header, hheader, ?_⟩
  cases hd : Designation.ofHeader header with
  | error e => simp [hd, bind, Except.bind] at h
  | ok designation =>
    cases hp : ListParameter.ofHeader header with
    | error e => simp [hd, hp, bind, Except.bind] at h
    | ok listParameters =>
      simp only [hd, hp, bind, Except.bind, pure, Except.pure] at h
      obtain rfl := Except.ok.inj h
      exact ⟨rfl, rfl, rfl⟩

/-- There is a return type exactly if the result is a single value. -/
theorem returnType_isSome_iff {lines : List String} {d : Directives} (h : ofLines lines = .ok d) :
    d.returnType.isSome ↔ d.designation.kind ∈ Designation.valueKinds := by
  obtain ⟨header, -, -, -, hreturn⟩ := ofLines_eq_ok h
  rw [hreturn, returnTypeFor, Designation.returnsValue]
  by_cases hkind : d.designation.kind ∈ Designation.valueKinds
  · simp [hkind]
  · simp [hkind]

end Directives

end StoredRoutines
