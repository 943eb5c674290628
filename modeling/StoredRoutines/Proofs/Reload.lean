import Mathlib.Data.List.Basic
import StoredRoutines.Proofs.Load.Routine
import StoredRoutines.Proofs.Placeholder.Scan

/-!
# When a routine need not be loaded

A record settles the values of all placeholders of its source. A routine is skipped exactly if the
time of its source, these values and the settings of its catalog entry are what they were.

## Main results

- `Placeholder.complete_eq_ok` — the values that a text resolves to
- `Loading.RecordOf.get?_replace` — the values that are recorded
- `reloadReason?_eq_none_iff` — the conditions for skipping
- `Loading.RecordOf.changedPlaceholder?_eq_none_iff` — values that are what they were
-/

namespace StoredRoutines

namespace Placeholder

variable {text : String} {table : Table} {replace : SortedMap String}

theorem lookup_filterMap_known (l : List String) (token : String) :
    (l.filterMap (known? table)).lookup token = if token ∈ l then table.get? token else none := by
  induction l with
  | nil => rfl
  | cons t l ih =>
    unfold known?
    by_cases ht : token = t
    · subst ht
      cases hget : table.get? token with
      | none =>
        rw [List.filterMap_cons_none (by rw [hget]; rfl), if_pos List.mem_cons_self]
        exact ih.trans (by simp [hget])
      | some value =>
        rw [List.filterMap_cons_some (by rw [hget]; rfl), if_pos List.mem_cons_self,
          SortedMap.lookup_cons_if, if_pos rfl]
    · have hmem : (token ∈ t :: l) = (token ∈ l) := by simp [ht]
      simp only [hmem]
      cases hget : table.get? t with
      | none =>
        rw [List.filterMap_cons_none (by rw [hget]; rfl)]
        exact ih
      | some value =>
        rw [List.filterMap_cons_some (by rw [hget]; rfl), SortedMap.lookup_cons_if, if_neg ht]
        exact ih

/-- The tokens that are collected are those of the text, with their values. -/
theorem get?_replace (token : String) :
    (collect text table).replace.get? token =
      if token ∈ tokens text then table.get? token else none := by
  unfold collect
  simp only
  rw [SortedMap.get?_ofList, ← List.filterMap_reverse, lookup_filterMap_known]
  simp only [List.mem_reverse]

/-- The unknown tokens are those of the text that the table does not know. -/
theorem mem_unknown {token : String} :
    token ∈ (collect text table).unknown ↔ token ∈ tokens text ∧ table.get? token = none := by
  unfold collect
  simp only [mem_sortedDistinct, List.mem_filter, Option.isNone_iff_eq_none]

theorem complete_eq_ok :
    (collect text table).complete = .ok replace ↔
      (∀ token ∈ tokens text, (table.get? token).isSome) ∧
        replace = (collect text table).replace := by
  have hunknown : (collect text table).unknown = [] ↔
      ∀ token ∈ tokens text, (table.get? token).isSome := by
    simp only [List.eq_nil_iff_forall_not_mem, mem_unknown, not_and, Option.isSome_iff_ne_none,
      ne_eq]
  unfold Resolution.complete
  split
  · next hne =>
    simp only [reduceCtorEq, false_iff]
    rintro ⟨h, -⟩
    exact hne (hunknown.2 h)
  · next heq =>
    rw [Except.ok.injEq, ← hunknown]
    have hempty : (collect text table).unknown = [] := by simpa using heq
    simp [hempty, eq_comm]

theorem tokens_head {token : String} (h : token ∈ tokens text) :
    ∃ rest, token.toList = '@' :: rest :=
  (isToken_of_mem_tokens h).head

/-- No location constant is a token. -/
theorem tokens_not_locationKey {token : String} (h : token ∈ tokens text) :
    Findings.locationKeys.contains token = false := by
  obtain ⟨rest, hrest⟩ := tokens_head h
  rw [Bool.eq_false_iff, ne_eq, List.contains_iff_mem]
  intro hmem
  have hkeys : ∀ key ∈ Findings.locationKeys, key.toList.head? ≠ some '@' := by decide
  exact hkeys token hmem (by rw [hrest]; rfl)

end Placeholder

namespace Loading.RecordOf

variable {source : Source} {table table' : Placeholder.Table} {parsed : ParsedRoutine}
  {record : RoutineRecord}

/-- The record keeps the tokens of the original text with their values. -/
theorem get?_replace (hparse : source.parse table = .ok parsed)
    (h : RecordOf source parsed record) (token : String) :
    record.replace.get? token =
      if token ∈ Placeholder.tokens source.text then table.get? token else none := by
  obtain ⟨-, hcomplete, -⟩ := parse_eq_ok hparse
  obtain ⟨-, hreplace⟩ := Placeholder.complete_eq_ok.1 hcomplete
  rw [h.replace, SortedMap.get?_filterKeys, hreplace, Placeholder.get?_replace]
  by_cases hmem : token ∈ Placeholder.tokens source.text
  · have hkey := Placeholder.tokens_not_locationKey hmem
    rw [hkey]
    rfl
  · simp [hmem]

end Loading.RecordOf

section

variable {record : RoutineRecord} {table : Placeholder.Table}

/-- No placeholder has changed exactly if the table gives each recorded token its recorded value. -/
theorem changedPlaceholder?_eq_none_iff :
    changedPlaceholder? record table = none ↔
      ∀ token value, record.replace.get? token = some value → table.get? token = some value := by
  rw [changedPlaceholder?, Option.map_eq_none_iff, List.find?_eq_none]
  constructor
  · intro h token value hvalue
    have hentry := h (token, value) ((SortedMap.mem_entries_iff _ _ _).2 hvalue)
    simpa using hentry
  · rintro h ⟨token, value⟩ hmem
    have hvalue := h token value ((SortedMap.mem_entries_iff _ _ _).1 hmem)
    simp [hvalue]

theorem changedSetting?_eq_none_iff {entry : CatalogRoutine} {session : SessionSettings} :
    changedSetting? entry session = none ↔ entry.settings = session := by
  obtain ⟨sqlMode, characterSet, collation⟩ := session
  obtain ⟨name, kind, ⟨sqlMode', characterSet', collation'⟩, parameters⟩ := entry
  unfold changedSetting?
  by_cases hm : sqlMode' = sqlMode <;> by_cases hc : characterSet' = characterSet <;>
    by_cases ho : collation' = collation <;> simp [hm, hc, ho]

/-- A routine is skipped exactly if its record is there, the source has the recorded time, the
    recorded placeholders have the recorded values, and the catalog lists the routine with the
    settings of the session. -/
theorem reloadReason?_eq_none_iff {prior : Option RoutineRecord} {mtime : Int64}
    {catalog : Option CatalogRoutine} {session : SessionSettings} :
    reloadReason? prior mtime table catalog session = none ↔
      ∃ record entry, prior = some record ∧ record.timestamp = mtime ∧
        changedPlaceholder? record table = none ∧ catalog = some entry ∧
        entry.settings = session := by
  unfold reloadReason?
  cases prior with
  | none => simp
  | some record =>
    by_cases htime : record.timestamp = mtime
    · cases hchanged : changedPlaceholder? record table with
      | some token => simp [htime, hchanged]
      | none =>
        cases catalog with
        | none => simp [htime, hchanged]
        | some entry => simp [htime, hchanged, changedSetting?_eq_none_iff]
    · simp [htime]

end

/-- The recorded values are those of a table exactly if each token of the source has the same value
    in it as in the table of the load. -/
theorem Loading.RecordOf.changedPlaceholder?_eq_none_iff {source : Source}
    {table table' : Placeholder.Table} {parsed : ParsedRoutine} {record : RoutineRecord}
    (hparse : source.parse table = .ok parsed) (h : RecordOf source parsed record) :
    changedPlaceholder? record table' = none ↔
      ∀ token ∈ Placeholder.tokens source.text, table'.get? token = table.get? token := by
  obtain ⟨-, hcomplete, -⟩ := parse_eq_ok hparse
  obtain ⟨hknown, -⟩ := Placeholder.complete_eq_ok.1 hcomplete
  rw [StoredRoutines.changedPlaceholder?_eq_none_iff]
  constructor
  · intro hsame token hmem
    obtain ⟨value, hvalue⟩ := Option.isSome_iff_exists.1 (hknown token hmem)
    rw [hvalue]
    refine hsame token value ?_
    rw [h.get?_replace hparse, if_pos hmem, hvalue]
  · intro hsame token value hvalue
    rw [h.get?_replace hparse] at hvalue
    by_cases hmem : token ∈ Placeholder.tokens source.text
    · rw [if_pos hmem] at hvalue
      rw [hsame token hmem, hvalue]
    · rw [if_neg hmem] at hvalue
      cases hvalue

/-- Sources of one routine with one text mean the same under tables in which its tokens have the
    same values. -/
theorem Source.parse_congr {source source' : Source} {table table' : Placeholder.Table}
    {parsed : ParsedRoutine} (hparse : source.parse table = .ok parsed)
    (htext : source'.text = source.text) (hname : source'.routineName = source.routineName)
    (htable : ∀ token ∈ Placeholder.tokens source.text, table'.get? token = table.get? token) :
    source'.parse table' = .ok parsed := by
  have hcollect : Placeholder.collect source.text table' =
      Placeholder.collect source.text table := by
    have hknown : ∀ token ∈ Placeholder.tokens source.text,
        Placeholder.known? table' token = Placeholder.known? table token := by
      intro token hmem
      unfold Placeholder.known?
      rw [htable token hmem]
    rw [Placeholder.collect, List.filterMap_congr hknown]
    congr 2
    refine List.filter_congr fun token hmem => ?_
    rw [htable token hmem]
  unfold Source.parse Source.lines at hparse ⊢
  rw [htext, hname, hcollect]
  exact hparse

end StoredRoutines
