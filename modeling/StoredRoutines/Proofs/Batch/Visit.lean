import StoredRoutines.Proofs.Load.Statements
import StoredRoutines.Proofs.Reload

/-!
# Visits

A run visits its sources one after the other. Each visit skips its source, loads it or fails, and
concerns the record of one routine only; the routine that its text creates may be another one.

## Main definitions

- `Visit` — a source of a run about to be visited
- `Visit.Skips`, `Visit.Installs`, `Visit.Loads`, `Visit.Creates` — what may happen in a visit
- `Visit.Result` — what may become of the progress and the routines

## Main results

- `Visit.result` — each visit has one of these results
- `Visit.skips_iff` — when a source is skipped
- `Visit.record_after`, `Visit.entry` — what becomes of a record, and of a routine of the database
- `Visit.logged_after` — the statements that are sent
-/

namespace StoredRoutines

open InMemory (created Creatable)

/-! ### What is noted about a source -/

namespace Progress

theorem get?_addLoaded (p : Progress) (name : String) (record : RoutineRecord) (n : String) :
    (p.addLoaded name record).store.get? n =
      if n = record.name then some record else p.store.get? n :=
  SortedMap.get?_insert _ _ _ _

theorem get?_addFailed (p : Progress) (name message n : String) :
    (p.addFailed name message).store.get? n = if n = name then none else p.store.get? n :=
  SortedMap.get?_erase _ _ _

end Progress

section

variable {σ : Type} {db : Database σ} {setting : RunSetting} {p : Progress} {path : Path}
  {s s' : Session σ}

theorem loadPath_of_some {record : RoutineRecord}
    (h : loadSource db setting p.store path s = .ok (some record) s') :
    loadPath db setting p s path = (p.addLoaded path.stem record, s') := by
  rw [loadPath, h]

theorem loadPath_of_none (h : loadSource db setting p.store path s = .ok none s') :
    loadPath db setting p s path = (p.addUnchanged path.stem, s') := by
  rw [loadPath, h]

theorem loadPath_of_error {e : LoadError}
    (h : loadSource db setting p.store path s = .error e s') :
    loadPath db setting p s path =
      (p.addFailed path.stem e.message, s'.notify (.error e.message)) := by
  rw [loadPath, h]

end

/-! ### Visits -/

/-- A source of a run about to be visited. -/
structure Visit where
  setting : RunSetting
  progress : Progress
  session : Session InMemory
  path : Path

namespace Visit

variable (v : Visit)

/-- The name of the routine is that of the file. -/
def name : String := v.path.stem

/-- The record that the visit finds. -/
def record? : Option RoutineRecord := v.progress.store.get? v.name

/-- A routine that the visit finds. -/
def routine? (n : String) : Option StoredRoutine := v.session.database.routines.get? n

/-- The setting in which the source is loaded. -/
def context : LoadContext :=
  ⟨v.setting.table, v.setting.session, v.session.database.catalogEntry v.name⟩

/-- The reason to load the source, given the time of its last change. -/
def reason? (modified : Int64) : Option ReloadReason :=
  reloadReason? v.record? modified v.setting.table (v.session.database.catalogEntry v.name)
    v.setting.session

/-- What the visit leaves behind. -/
def after : Progress × Session InMemory :=
  loadPath inMemory v.setting v.progress v.session v.path

/-- A routine that the visit leaves behind. -/
def routineAfter? (n : String) : Option StoredRoutine := v.after.2.database.routines.get? n

/-- Nothing asks for a load of the source. -/
def Skips : Prop :=
  ∃ modified, modifiedTime v.setting.files v.path = .ok modified ∧ v.reason? modified = none

/-- The source is read and its routine installed. -/
structure Installs (source : Source) (parsed : ParsedRoutine) (d : InMemory) : Prop where
  due : ∃ modified reason, modifiedTime v.setting.files v.path = .ok modified ∧
    v.reason? modified = some reason
  read : readSource v.setting.files v.path = .ok source
  parse : source.parse v.setting.table = .ok parsed
  installs : Loading.Installs inMemory source parsed v.context v.session.database d
  /-- The routines stay as they were installed. -/
  routines_eq : v.after.2.database.routines = d.routines

/-- The source is loaded. -/
structure Loads (source : Source) (parsed : ParsedRoutine) (record : RoutineRecord)
    (d : InMemory) : Prop extends v.Installs source parsed d where
  recordOf : Loading.RecordOf source parsed record
  progress_eq : v.after.1 = v.progress.addLoaded v.name record

/-- The statement of the source creates a routine. -/
def Creates (signature : Signature) (text : String) : Prop :=
  ∃ source parsed d, v.Installs source parsed d ∧ source.statement parsed = text ∧
    Signature.find? text = some signature

/-- The statement of the source creates a routine of this name. -/
def CreatesName (n : String) : Prop :=
  ∃ kind text, v.Creates ⟨kind, n⟩ text

/-- What may become of the progress and the routines in a visit. -/
inductive Result : Progress → Session InMemory → Prop where
  /-- The source is skipped. -/
  | skipped (h : v.Skips) : Result (v.progress.addUnchanged v.name) v.session
  /-- The source is loaded. -/
  | loaded {source : Source} {parsed : ParsedRoutine} {record : RoutineRecord} {d : InMemory}
      {s : Session InMemory} (h : v.Loads source parsed record d)
      (hs : s.database.routines = d.routines) : Result (v.progress.addLoaded v.name record) s
  /-- The routine is installed, but the catalog does not agree with the source. -/
  | refused {source : Source} {parsed : ParsedRoutine} {d : InMemory} {s : Session InMemory}
      {message : String} (h : v.Installs source parsed d)
      (hs : s.database.routines = d.routines) : Result (v.progress.addFailed v.name message) s
  /-- The routine is not installed. -/
  | failed {s : Session InMemory} {message : String} (hdue : ¬ v.Skips)
      (hs : s.database.routines = v.session.database.routines ∨
        s.database.routines = v.session.database.routines.erase v.name) :
      Result (v.progress.addFailed v.name message) s

/-- The catalog answers without a change to the database. -/
theorem loadSource_eq {modified : Int64}
    (hm : modifiedTime v.setting.files v.path = .ok modified) :
    loadSource inMemory v.setting v.progress.store v.path v.session =
      (match v.reason? modified with
        | none => pure none
        | some _ => do
          let source ← Loading.ofExcept (readSource v.setting.files v.path)
          let record ← Loading.routine inMemory source v.context
          return some record :
        Loading InMemory LoadError (Option RoutineRecord)) v.session := by
  rw [loadSource, hm]
  rfl

theorem after_of_skips (h : v.Skips) :
    v.after = (v.progress.addUnchanged v.name, v.session) := by
  obtain ⟨modified, hm, hreason⟩ := h
  have heq := v.loadSource_eq hm
  rw [hreason] at heq
  exact loadPath_of_none heq

/-- The visit of a source that is due and can be read ends as the load of the source does. -/
theorem result_of_read {modified : Int64} {reason : ReloadReason} {source : Source}
    (hm : modifiedTime v.setting.files v.path = .ok modified)
    (hreason : v.reason? modified = some reason) (hskip : ¬ v.Skips)
    (hread : readSource v.setting.files v.path = .ok source) : v.Result v.after.1 v.after.2 := by
  have hname : source.routineName = v.name := stem_of_readSource hread
  have hsame : loadSource inMemory v.setting v.progress.store v.path v.session =
      (Loading.routine inMemory source v.context >>= fun record => pure (some record))
        v.session := by
    rw [v.loadSource_eq hm, hreason, hread]
    rfl
  cases hroutine : Loading.routine inMemory source v.context v.session with
  | ok record s =>
    have hload := hsame.trans (Loading.bind_eq_ok_iff.2 ⟨record, s, hroutine, rfl⟩)
    have hafter : v.after = (v.progress.addLoaded v.name record, s) := loadPath_of_some hload
    obtain ⟨parsed, d, hparse, hinstall, hrecord, notices, r, hr⟩ :=
      Loading.routine_eq_ok hroutine
    -- asking for the columns and the parameters leaves the routines as they have been installed
    have hkept : s.database.routines = d.routines := congrArg Prod.fst
      ((Loading.reconcile_within (Loading.asks_kept parsed.name)).of_ok hr)
    have hinstalls : v.Installs source parsed d :=
      ⟨⟨modified, reason, hm, hreason⟩, hread, hparse, hinstall, by rw [hafter]; exact hkept⟩
    rw [hafter]
    exact .loaded ⟨hinstalls, hrecord, by rw [hafter]⟩ hkept
  | error e s =>
    have hload := hsame.trans (Loading.bind_eq_error_iff.2 (.inl hroutine))
    have hafter : v.after = (v.progress.addFailed v.name e.message,
        s.notify (.error e.message)) := loadPath_of_error hload
    rw [hafter]
    have hcatalog : v.context.catalog =
        v.session.database.catalogEntry source.routineName := by
      rw [hname]
      rfl
    -- an error comes before the statement of the routine or behind it
    rcases Loading.routines_of_error hcatalog hroutine with h | ⟨parsed, d, hparse, hd, hs⟩
    · rw [hname] at h
      exact .failed hskip h
    · have hinstalls : v.Installs source parsed d :=
        ⟨⟨modified, reason, hm, hreason⟩, hread, hparse, hd, by rw [hafter]; exact hs⟩
      exact .refused hinstalls hs

theorem result : v.Result v.after.1 v.after.2 := by
  by_cases hskip : v.Skips
  · rw [v.after_of_skips hskip]
    exact .skipped hskip
  cases hm : modifiedTime v.setting.files v.path with
  | error e =>
    have hload : loadSource inMemory v.setting v.progress.store v.path v.session =
        .error e v.session := by
      rw [loadSource, hm]
      rfl
    rw [after, loadPath_of_error hload]
    exact .failed hskip (.inl rfl)
  | ok modified =>
    cases hreason : v.reason? modified with
    | none => exact absurd ⟨modified, hm, hreason⟩ hskip
    | some reason =>
      cases hread : readSource v.setting.files v.path with
      | error e =>
        have hload := v.loadSource_eq hm
        rw [hreason, hread] at hload
        rw [after, loadPath_of_error hload]
        exact .failed hskip (.inl rfl)
      | ok source => exact v.result_of_read hm hreason hskip hread

theorem Skips.recorded {v : Visit} (h : v.Skips) :
    ∃ record e, v.record? = some record ∧ v.routine? v.name = some e := by
  obtain ⟨modified, -, hreason⟩ := h
  obtain ⟨record, entry, hrecord, -, -, hentry, -⟩ := reloadReason?_eq_none_iff.1 hreason
  obtain ⟨e, he, -⟩ := Option.map_eq_some_iff.1 hentry
  exact ⟨record, e, hrecord, he⟩

/-- With a record and a routine at hand, a visit skips its source if the time stamp, the
    placeholders and the session are still those of the last load. -/
theorem skips_iff {v : Visit} {record : RoutineRecord} {e : StoredRoutine}
    (hrecord : v.record? = some record) (hroutine : v.routine? v.name = some e) :
    v.Skips ↔ modifiedTime v.setting.files v.path = .ok record.timestamp ∧
      changedPlaceholder? record v.setting.table = none ∧ e.settings = v.setting.session := by
  have hcatalog : v.session.database.catalogEntry v.name =
      some ⟨v.name, e.kind, e.settings, v.session.database.parametersOf v.name⟩ := by
    rw [InMemory.catalogEntry, show v.session.database.routines.get? v.name = some e from hroutine]
    rfl
  unfold Skips reason?
  rw [hrecord, hcatalog]
  constructor
  · rintro ⟨modified, hm, hreason⟩
    obtain ⟨_, _, ⟨⟩, htime, hsame, ⟨⟩, hsettings⟩ := reloadReason?_eq_none_iff.1 hreason
    exact ⟨by rw [hm, htime], hsame, hsettings⟩
  · rintro ⟨hm, hsame, hsettings⟩
    exact ⟨record.timestamp, hm,
      reloadReason?_eq_none_iff.2 ⟨record, _, rfl, rfl, hsame, rfl, hsettings⟩⟩

/-! ### Records -/

section

variable {v} {source : Source} {parsed : ParsedRoutine} {record : RoutineRecord} {d : InMemory}

theorem Installs.not_skips (h : v.Installs source parsed d) : ¬ v.Skips := by
  rintro ⟨modified, hm, hnone⟩
  obtain ⟨modified', reason, hm', hsome⟩ := h.due
  rw [hm] at hm'
  obtain rfl := Except.ok.inj hm'
  rw [hnone] at hsome
  cases hsome

theorem Installs.name_eq (h : v.Installs source parsed d) : parsed.name = v.name :=
  (Loading.parse_eq_ok h.parse).1.trans (stem_of_readSource h.read)

theorem Installs.signature_name (h : v.Installs source parsed d) :
    parsed.signature.name = v.name :=
  (Loading.parse_eq_ok h.parse).2.2.2.1.trans (stem_of_readSource h.read)

theorem Loads.record_name (h : v.Loads source parsed record d) : record.name = v.name :=
  h.recordOf.name.trans h.signature_name

theorem Loads.record_after (h : v.Loads source parsed record d) :
    v.after.1.store.get? v.name = some record := by
  rw [h.progress_eq, Progress.get?_addLoaded, if_pos h.record_name.symm]

end

/-- A visit leaves the records of other routines. -/
theorem record_of_ne {n : String} (hn : n ≠ v.name) :
    v.after.1.store.get? n = v.progress.store.get? n := by
  have hresult := v.result
  generalize v.after.1 = p, v.after.2 = s at hresult ⊢
  cases hresult with
  | skipped h => rfl
  | loaded h hs => rw [Progress.get?_addLoaded, h.record_name, if_neg hn]
  | refused h hs => rw [Progress.get?_addFailed, if_neg hn]
  | failed h hs => rw [Progress.get?_addFailed, if_neg hn]

/-- A record after a visit is the one from before, and nothing has been done, or that of the
    load. -/
theorem record_after {record : RoutineRecord}
    (h : v.after.1.store.get? v.name = some record) :
    (v.Skips ∧ v.record? = some record) ∨ ∃ source parsed d, v.Loads source parsed record d := by
  have hresult := v.result
  generalize hp : v.after.1 = p, v.after.2 = s at hresult h
  cases hresult with
  | skipped hskip => exact .inl ⟨hskip, h⟩
  | loaded hload hs =>
    have hafter := hload.record_after
    rw [hp, h] at hafter
    obtain rfl := Option.some.inj hafter
    exact .inr ⟨_, _, _, hload⟩
  | refused hinstall hs =>
    rw [Progress.get?_addFailed, if_pos rfl] at h
    cases h
  | failed hdue hs =>
    rw [Progress.get?_addFailed, if_pos rfl] at h
    cases h

/-! ### Routines -/

/-- A definition that is executed creates the routine that its signature names, if any, and nothing
    else. -/
theorem created_get? (routines : SortedMap StoredRoutine) (text : String)
    (settings : SessionSettings) (n : String) :
    (created routines text settings).get? n = routines.get? n ∨
      ∃ signature, Signature.find? text = some signature ∧ signature.name = n ∧
        (created routines text settings).get? n = some ⟨signature.kind, text, settings⟩ := by
  unfold created
  cases hfind : Signature.find? text with
  | none => exact .inl rfl
  | some signature =>
    simp only [SortedMap.get?_insert]
    by_cases hn : n = signature.name
    · exact .inr ⟨signature, rfl, hn.symm, if_pos hn⟩
    · exact .inl (if_neg hn)

/-- The session settings are spelled as the database keeps them. -/
def Canonical : Prop := v.setting.session.CanonicalIn v.session.database

/-- An installed routine takes the place of the one of the same name. -/
theorem Installs.routines {v : Visit} (hv : v.Canonical) {source : Source}
    {parsed : ParsedRoutine} {d : InMemory} (h : v.Installs source parsed d) :
    Creatable (v.session.database.routines.erase v.name) (source.statement parsed) ∧
      d.routines = created (v.session.database.routines.erase v.name) (source.statement parsed)
        v.setting.session := by
  have hcatalog : v.context.catalog = v.session.database.catalogEntry parsed.name := by
    rw [h.name_eq]
    rfl
  have hroutines := h.installs.routines hcatalog hv
  rw [h.name_eq] at hroutines
  exact hroutines

/-- What an installation leaves of a routine: the source's own one is gone unless it has been
    created, and another one is as it was unless it has been created where there was none. -/
theorem Installs.routine? {v : Visit} (hv : v.Canonical) {source : Source}
    {parsed : ParsedRoutine} {d : InMemory} (h : v.Installs source parsed d) (n : String) :
    (n = v.name ∧ d.routines.get? n = none) ∨
      (n ≠ v.name ∧ d.routines.get? n = v.routine? n) ∨
      ∃ signature text, v.Creates signature text ∧ signature.name = n ∧
        (n ≠ v.name → v.routine? n = none) ∧
        d.routines.get? n = some ⟨signature.kind, text, v.setting.session⟩ := by
  obtain ⟨hcreatable, hroutines⟩ := h.routines hv
  rw [hroutines]
  rcases created_get? (v.session.database.routines.erase v.name) (source.statement parsed)
    v.setting.session n with hget | ⟨signature, hfind, hname, hget⟩
  · rw [hget, SortedMap.get?_erase]
    by_cases hn : n = v.name
    · exact .inl ⟨hn, if_pos hn⟩
    · exact .inr (.inl ⟨hn, if_neg hn⟩)
  · refine .inr (.inr ⟨signature, _, ⟨source, parsed, d, h, rfl, hfind⟩, hname, ?_, hget⟩)
    intro hn
    have hfree := hcreatable signature hfind
    rw [hname, SortedMap.get?_erase, if_neg hn] at hfree
    exact hfree

/-- What becomes of a routine in a visit: it stays, or it is created where there was none, or it
    is that of the source and may be dropped before. -/
theorem entry (hv : v.Canonical) (n : String) :
    v.routineAfter? n = v.routine? n ∨ (n = v.name ∧ ¬ v.Skips ∧ v.routineAfter? n = none) ∨
      ∃ signature text, v.Creates signature text ∧ signature.name = n ∧
        (n ≠ v.name → v.routine? n = none) ∧
        v.routineAfter? n = some ⟨signature.kind, text, v.setting.session⟩ := by
  have hresult := v.result
  have hinstalls : ∀ {source parsed d}, v.Installs source parsed d →
      v.after.2.database.routines = d.routines →
      v.routineAfter? n = v.routine? n ∨ (n = v.name ∧ ¬ v.Skips ∧ v.routineAfter? n = none) ∨
      ∃ signature text, v.Creates signature text ∧ signature.name = n ∧
        (n ≠ v.name → v.routine? n = none) ∧
        v.routineAfter? n = some ⟨signature.kind, text, v.setting.session⟩ := by
    intro source parsed d h hs
    rw [routineAfter?, hs]
    rcases h.routine? hv n with ⟨hn, hget⟩ | ⟨-, hget⟩ | hcreates
    · exact .inr (.inl ⟨hn, h.not_skips, hget⟩)
    · exact .inl hget
    · exact .inr (.inr hcreates)
  unfold routineAfter? at hinstalls ⊢
  generalize v.after.1 = p, v.after.2 = s at hresult hinstalls ⊢
  cases hresult with
  | skipped hskip => exact .inl rfl
  | loaded h hs => exact hinstalls h.toInstalls hs
  | refused h hs => exact hinstalls h hs
  | failed hdue hs =>
    rcases hs with hs | hs
    · rw [hs]
      exact .inl rfl
    · rw [hs, SortedMap.get?_erase]
      by_cases hn : n = v.name
      · exact .inr (.inl ⟨hn, hdue, if_pos hn⟩)
      · exact .inl (if_neg hn)

/-- The routine that a visit creates is there afterwards, with its text and the settings of the
    visit. -/
theorem Creates.routineAfter? {v : Visit} (hv : v.Canonical) {signature : Signature}
    {text : String} (h : v.Creates signature text) :
    v.routineAfter? signature.name = some ⟨signature.kind, text, v.setting.session⟩ := by
  obtain ⟨source, parsed, d, hinstalls, rfl, hfind⟩ := h
  obtain ⟨-, hroutines⟩ := hinstalls.routines hv
  rw [Visit.routineAfter?, hinstalls.routines_eq, hroutines]
  rw [created, hfind]
  simp only [SortedMap.get?_insert, if_true]

theorem Creates.not_skips {v : Visit} {signature : Signature} {text : String}
    (h : v.Creates signature text) : ¬ v.Skips := by
  obtain ⟨source, parsed, d, hinstalls, -⟩ := h
  exact hinstalls.not_skips

/-- The texts that the visit may send. -/
def Text (text : String) : Prop :=
  ∃ source parsed, readSource v.setting.files v.path = .ok source ∧
    source.parse v.setting.table = .ok parsed ∧ source.statement parsed = text

/-- A visit stays within a frame that allows its statements. -/
theorem after_rel {F : Frame InMemory} (h : Loading.Permits inMemory F v.name v.Text) :
    F.rel v.session.database v.after.2.database := by
  have hwithin : Loading.Within F (loadSource inMemory v.setting v.progress.store v.path) :=
    Loading.loadSource_within h (fun source parsed hread hparse => ⟨source, parsed, hread, hparse,
      rfl⟩) v.progress.store
  have hs := hwithin v.session
  unfold after loadPath
  generalize loadSource inMemory v.setting v.progress.store v.path v.session = r at hs ⊢
  match r, hs with
  | .ok (some _) _, h => exact h
  | .ok none _, h => exact h
  | .error _ _, h => exact h

theorem canonicalSqlMode_after :
    v.after.2.database.canonicalSqlMode = v.session.database.canonicalSqlMode :=
  v.after_rel (F := Frame.view InMemory.canonicalSqlMode) (InMemory.permits_canonicalSqlMode _ _)

theorem Canonical.after {v : Visit} (hv : v.Canonical) :
    v.setting.session.CanonicalIn v.after.2.database := by
  rw [SessionSettings.CanonicalIn, v.canonicalSqlMode_after]
  exact hv

/-- The statements of a visit are recorded; a source that is skipped has none. -/
theorem logged_after :
    (Frame.logged fun sql => ¬ v.Skips ∧ InMemory.Sent v.name v.Text sql).rel
      v.session.database v.after.2.database := by
  by_cases hskip : v.Skips
  · rw [v.after_of_skips hskip]
    exact Frame.refl _ _
  · obtain ⟨added, hadded, hsent⟩ := v.after_rel (InMemory.permits_logged v.name v.Text)
    exact ⟨added, hadded, fun sql hsql => ⟨hskip, hsent sql hsql⟩⟩

end Visit

end StoredRoutines
