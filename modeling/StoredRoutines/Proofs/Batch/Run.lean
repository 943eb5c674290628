import Mathlib.Data.List.Nodup
import StoredRoutines.Proofs.Batch.Preparation
import StoredRoutines.Proofs.Batch.Tour
import StoredRoutines.Proofs.Store

/-!
# What a run does to a routine

A run visits the source of a routine at most once. What the run does to the record of the routine
happens in this visit; before it and after it other sources may create the routine where it is
missing.

## Main definitions

- `visited`, `noted` — the sources that are visited, and the progress the visits start with
- `Run.visits` — the visits of a run
- `Run.Change` — what may become of a record in the file and of a routine

## Main results

- `Run.outcome_of_begun` — what the run leaves behind
- `Run.fate` — what becomes of a routine
- `Run.mem_unchanged`, `Run.mem_loaded` — the report
- `Run.load_of_not_completes` — the records after a run that fails
- `Run.change` — this is what a run does to them
-/

namespace StoredRoutines

/-! ### Routines with more than one source -/

theorem length_sources (paths : List Path) (n : String) :
    (paths.filter fun p => p.stem == n).length = (paths.map Path.stem).count n := by
  rw [← List.countP_eq_length_filter, List.count_eq_countP, List.countP_map]
  rfl

/-- The duplicates are the routines with more than one source, each with all of its sources. -/
theorem mem_duplicates_iff {paths : List Path} {n : String} {sources : List Path} :
    (n, sources) ∈ duplicates paths ↔
      1 < (paths.map Path.stem).count n ∧ sources = paths.filter fun p => p.stem == n := by
  rw [← length_sources]
  unfold duplicates
  simp only [List.mem_filterMap, mem_sortedDistinct, Option.ite_none_right_eq_some,
    Option.some.injEq, Prod.mk.injEq]
  constructor
  · rintro ⟨m, -, hlen, rfl, rfl⟩
    exact ⟨hlen, rfl⟩
  · rintro ⟨hlen, rfl⟩
    obtain ⟨p, hp⟩ := List.exists_mem_of_length_pos (by omega :
      0 < (paths.filter fun p => p.stem == n).length)
    obtain ⟨hmem, hstem⟩ := List.mem_filter.1 hp
    exact ⟨n, List.mem_map.2 ⟨p, hmem, by simpa using hstem⟩, hlen, rfl, rfl⟩

theorem mem_duplicates {paths : List Path} {n : String} :
    n ∈ (duplicates paths).map (·.1) ↔ 1 < (paths.map Path.stem).count n := by
  simp [mem_duplicates_iff]

/-- The sources that are not passed by as duplicates, in order. -/
def visited (paths : List Path) : List Path :=
  paths.filter fun p => !((duplicates paths).map (·.1)).contains p.stem

/-- A source is visited exactly if it is the only one of its routine. -/
theorem mem_visited {paths : List Path} {p : Path} :
    p ∈ visited paths ↔ p ∈ paths ∧ (paths.map Path.stem).count p.stem ≤ 1 := by
  rw [visited, List.mem_filter]
  have hnot : (!((duplicates paths).map (·.1)).contains p.stem) = true ↔
      (paths.map Path.stem).count p.stem ≤ 1 := by
    rw [Bool.not_eq_true', Bool.eq_false_iff, ne_eq, List.contains_iff_mem, mem_duplicates]
    omega
  rw [hnot]

theorem visited_nodup (paths : List Path) : ((visited paths).map Path.stem).Nodup := by
  rw [List.nodup_iff_count]
  intro n
  by_cases hn : n ∈ (visited paths).map Path.stem
  · obtain ⟨p, hp, rfl⟩ := List.mem_map.1 hn
    obtain ⟨-, hcount⟩ := mem_visited.1 hp
    have hsub : List.Sublist ((visited paths).map Path.stem) (paths.map Path.stem) :=
      List.Sublist.map _ List.filter_sublist
    exact Nat.le_trans (hsub.count_le _) hcount
  · rw [List.count_eq_zero.2 hn]
    omega

theorem mem_visited_of_filter {paths : List Path} {p : Path}
    (h : (paths.filter fun q => q.stem == p.stem) = [p]) : p ∈ visited paths := by
  have hp : p ∈ paths.filter fun q => q.stem == p.stem := h ▸ List.mem_singleton_self p
  refine mem_visited.2 ⟨(List.mem_filter.1 hp).1, ?_⟩
  rw [← length_sources, h]
  exact Nat.le_refl 1

/-- The progress and the session with which the visits start. -/
def noted (paths : List Path) (store : Store) (s : Session InMemory) :
    Progress × Session InMemory :=
  (duplicates paths).foldl (fun (p, s) d => noteDuplicate p s d.1 d.2) (⟨store, .empty⟩, s)

theorem loadSources_eq (setting : RunSetting) (paths : List Path) (store : Store)
    (s : Session InMemory) :
    loadSources inMemory setting paths store s =
      tour setting (noted paths store s) (visited paths) := rfl

/-- Noting duplicates takes their records away and leaves everything else as it is. -/
theorem noteDuplicates_eq {σ : Type} (ds : List (String × List Path))
    (start : Progress × Session σ) :
    let noted := ds.foldl (fun (p, s) d => noteDuplicate p s d.1 d.2) start
    noted.2.database = start.2.database ∧ noted.1.report.loaded = start.1.report.loaded ∧
      noted.1.report.unchanged = start.1.report.unchanged ∧
      noted.1.store.path = start.1.store.path ∧
      ∀ n, noted.1.store.get? n = if n ∈ ds.map (·.1) then none else start.1.store.get? n := by
  induction ds generalizing start with
  | nil => exact ⟨rfl, rfl, rfl, rfl, fun n => by simp⟩
  | cons d ds ih =>
    obtain ⟨hdatabase, hloaded, hunchanged, hpath, hrecord⟩ :=
      ih (noteDuplicate start.1 start.2 d.1 d.2)
    refine ⟨hdatabase, hloaded, hunchanged, hpath, fun n => ?_⟩
    rw [List.foldl_cons, hrecord n, List.map_cons]
    by_cases hn : n ∈ ds.map (·.1)
    · rw [if_pos hn, if_pos (List.mem_cons_of_mem _ hn)]
    · rw [if_neg hn]
      change (start.1.addFailed d.1 _).store.get? n = _
      rw [Progress.get?_addFailed]
      by_cases hd : n = d.1
      · rw [if_pos hd, if_pos (hd ▸ List.mem_cons_self)]
      · rw [if_neg hd, if_neg fun h => (List.mem_cons.1 h).elim hd hn]

section

variable {paths : List Path} {store : Store} {s : Session InMemory}

theorem record_noted (n : String) :
    recordAt (noted paths store s) n =
      if 1 < (paths.map Path.stem).count n then none else store.get? n := by
  have hrecord := (noteDuplicates_eq (duplicates paths) (⟨store, .empty⟩, s)).2.2.2.2 n
  simp only [mem_duplicates] at hrecord
  exact hrecord

theorem database_noted : (noted paths store s).2.database = s.database :=
  (noteDuplicates_eq (duplicates paths) (⟨store, .empty⟩, s)).1

theorem loaded_noted : (noted paths store s).1.report.loaded = [] :=
  (noteDuplicates_eq (duplicates paths) (⟨store, .empty⟩, s)).2.1

theorem unchanged_noted : (noted paths store s).1.report.unchanged = [] :=
  (noteDuplicates_eq (duplicates paths) (⟨store, .empty⟩, s)).2.2.1

theorem path_noted : (noted paths store s).1.store.path = store.path :=
  (noteDuplicates_eq (duplicates paths) (⟨store, .empty⟩, s)).2.2.2.1

end

/-! ### Runs -/

namespace Run

variable (r : Run)

/-- What the sources of the run come to from a store and a session. -/
def finish (store : Store) (s : Session InMemory) : Progress × Session InMemory :=
  tour r.setting (noted r.sources store s) (visited r.sources)

/-- The visits of the run, none if it does not get to its sources. -/
def visits : List Visit :=
  match r.begun? with
  | some (store, s) =>
    StoredRoutines.visits r.setting (noted r.sources store s) (visited r.sources)
  | none => []

variable {r} {store : Store} {s : Session InMemory}

/-- The visits of a run that gets to its sources are those of its tour. -/
theorem visits_of_begun (h : r.begun? = some (store, s)) :
    r.visits =
      StoredRoutines.visits r.setting (noted r.sources store s) (visited r.sources) := by
  rw [visits, h]

/-- A run that gets to its sources ends with the attempt to save what the tour has left. -/
theorem outcome_of_begun (h : r.begun? = some (store, s)) :
    r.outcome.session.database = (r.finish store s).2.database ∧
      match (r.conclude (r.finish store s).1).store.save r.files with
      | (.error e, files) => r.outcome.result = .error (.store e) ∧ r.outcome.files = files
      | (.ok (), files) =>
        r.outcome.result = .ok (r.conclude (r.finish store s).1).report ∧
          r.outcome.files = files := by
  obtain ⟨s', hphase, hdatabase⟩ := r.loadPhase_of_begun h
  rw [loadSources_eq] at hphase hdatabase
  change _ = EStateM.Result.ok (r.conclude (r.finish store s).1) s' at hphase
  rw [outcome, run, hphase]
  simp only
  rcases (r.conclude (r.finish store s).1).store.save r.files with ⟨e | u, files⟩
  · exact ⟨hdatabase, rfl, rfl⟩
  · exact ⟨hdatabase, rfl, rfl⟩

/-- The run answers with a report. -/
def Completes (r : Run) : Prop := ∃ report, r.outcome.result = .ok report

instance : Decidable r.Completes :=
  decidable_of_iff (r.outcome.result.isOk = true) (by
    unfold Completes
    cases r.outcome.result with
    | ok report => simp [Except.isOk, Except.toBool]
    | error e => simp [Except.isOk, Except.toBool])

/-- The records at the end of the run, whether or not they can be saved. -/
def records (r : Run) : SortedMap RoutineRecord :=
  match r.begun? with
  | some (store, s) => (r.conclude (r.finish store s).1).store.records
  | none => .empty

theorem records_of_begun (h : r.begun? = some (store, s)) :
    r.records = (r.conclude (r.finish store s).1).store.records := by
  rw [records, h]

/-- A run that completes has visited its sources, saved its records and reported on them. -/
theorem begun_of_ok {report : Report} (h : r.outcome.result = .ok report) :
    ∃ store s, r.begun? = some (store, s) ∧
      (r.conclude (r.finish store s).1).store.save r.files = (.ok (), r.outcome.files) ∧
      (r.conclude (r.finish store s).1).report = report := by
  cases hb : r.begun? with
  | none =>
    obtain ⟨e, he, -⟩ := r.outcome_of_not_begun hb
    rw [h] at he
    cases he
  | some b =>
    obtain ⟨store, s⟩ := b
    obtain ⟨-, hsave⟩ := outcome_of_begun hb
    refine ⟨store, s, rfl, ?_⟩
    generalize hfiles : (r.conclude (r.finish store s).1).store.save r.files = saved at hsave ⊢
    match saved, hsave with
    | (.error e, files), hsave =>
      rw [h] at hsave
      cases hsave.1
    | (.ok (), files), hsave =>
      rw [h] at hsave
      exact ⟨by rw [hsave.2], (Except.ok.inj hsave.1).symm⟩

theorem path_conclude (p : Progress) : (r.conclude p).store.path = p.store.path := by
  unfold conclude
  split <;> rfl

theorem path_of_begun (h : r.begun? = some (store, s)) :
    (r.conclude (r.finish store s).1).store.path = r.recordsPath := by
  rw [path_conclude, finish, path_tour, path_noted]
  exact Store.path_of_load (r.begun?_eq_some h).1

/-- The records of a run that completes are loaded from every tree that shows them as the run has
    left them. -/
theorem Completes.load {files : FileTree} (h : r.Completes)
    (hfiles : FileTree.SameAt r.recordsPath r.outcome.files files) :
    Store.load files r.recordsPath = .ok ⟨r.recordsPath, r.records⟩ := by
  obtain ⟨report, hreport⟩ := h
  obtain ⟨store, s, hb, hsave, -⟩ := begun_of_ok hreport
  have hpath := path_of_begun hb
  rw [records_of_begun hb, ← hpath]
  rw [← hpath] at hfiles
  exact Store.load_of_save hsave hfiles

/-- The file of the records is there once a run has completed. -/
theorem Completes.readText? (h : r.Completes) :
    r.outcome.files.doesExist r.recordsPath = true ∧
      ∃ text, r.outcome.files.readText? r.recordsPath = some text := by
  obtain ⟨report, hreport⟩ := h
  obtain ⟨store, s, hb, hsave, -⟩ := begun_of_ok hreport
  obtain ⟨hexist, htext⟩ := Store.save_eq_ok hsave
  rw [path_of_begun hb] at hexist htext
  exact ⟨hexist, _, htext⟩

theorem unchanged_conclude (p : Progress) :
    (r.conclude p).report.unchanged = p.report.unchanged := by
  unfold conclude
  split <;> rfl

theorem loaded_conclude (p : Progress) : (r.conclude p).report.loaded = p.report.loaded := by
  unfold conclude
  split <;> rfl

/-- A routine is reported as unchanged exactly if the visit of its source skips it. -/
theorem mem_unchanged {report : Report} (h : r.outcome.result = .ok report) (n : String) :
    n ∈ report.unchanged ↔ ∃ v ∈ r.visits, v.Skips ∧ v.name = n := by
  obtain ⟨store, s, hb, -, rfl⟩ := begun_of_ok h
  rw [unchanged_conclude, visits_of_begun hb, finish, mem_unchanged_tour, unchanged_noted]
  simp only [List.not_mem_nil, false_or]

/-- A routine is reported as loaded exactly if the visit of its source loads it. -/
theorem mem_loaded {report : Report} (h : r.outcome.result = .ok report) (n : String) :
    n ∈ report.loaded ↔ ∃ v ∈ r.visits,
      v.name = n ∧ ∃ source parsed record d, v.Loads source parsed record d := by
  obtain ⟨store, s, hb, -, rfl⟩ := begun_of_ok h
  rw [loaded_conclude, visits_of_begun hb, finish, mem_loaded_tour, loaded_noted]
  simp only [List.not_mem_nil, false_or]

/-- All visits are of visited sources, in the setting of the run. -/
theorem setting_of_mem_visits {v : Visit} (hv : v ∈ r.visits) :
    v.setting = r.setting ∧ v.path ∈ visited r.sources := by
  unfold visits at hv
  split at hv
  · exact path_of_mem_visits hv
  · cases hv

/-- What a visit reads and checks is what the run finds in its files under its table. -/
theorem source_of_installs {v : Visit} (hv : v ∈ r.visits) {source : Source}
    {parsed : ParsedRoutine} {d : InMemory} (h : v.Installs source parsed d) :
    readSource r.files v.path = .ok source ∧ source.parse r.table = .ok parsed := by
  have hread := h.read
  have hparse := h.parse
  rw [(setting_of_mem_visits hv).1] at hread hparse
  exact ⟨hread, hparse⟩

theorem canonical_noted (h : r.begun? = some (store, s)) :
    r.setting.session.CanonicalIn (noted r.sources store s).2.database := by
  obtain ⟨-, -, hmode, -⟩ := r.begun?_eq_some h
  refine r.session_canonicalIn ?_
  rw [database_noted]
  exact hmode

theorem canonical_of_mem {v : Visit} (hv : v ∈ r.visits) : v.Canonical := by
  cases h : r.begun? with
  | none =>
    rw [visits, h] at hv
    cases hv
  | some b =>
    rw [visits_of_begun h] at hv
    exact canonical_of_mem_visits (canonical_noted h) hv

/-- No routine is visited twice. -/
theorem visit_unique {v w : Visit} (hv : v ∈ r.visits) (hw : w ∈ r.visits)
    (h : v.name = w.name) : v = w := by
  have hnodup : (r.visits.map Visit.name).Nodup := by
    unfold visits
    split
    · rw [names_visits]
      exact visited_nodup _
    · exact List.nodup_nil
  exact List.inj_on_of_nodup_map hnodup hv hw h

/-- What becomes of the record and of the routine of a name. -/
inductive Fate (r : Run) (n : String) (record record' : Option RoutineRecord)
    (routine routine' : Option StoredRoutine) : Prop where
  /-- No source of the name is visited. -/
  | passed (hn : ∀ v ∈ r.visits, v.name ≠ n) (hrecord : record' = none ∨ record' = record)
      (hroutine : Others r.visits n r.session routine routine')
  /-- The source of the name is visited, and other sources are before and after it. -/
  | visited (v : Visit) (hv : v ∈ r.visits) (hn : v.name = n) (hbefore : v.record? = record)
      (hroutine : Others r.visits n r.session routine (v.routine? n))
      (hafter : record' = v.after.1.store.get? v.name)
      (hroutine' : Others r.visits n r.session (v.routineAfter? n) routine')

theorem get?_conclude_of_mem {p : Progress} {n : String} (hn : n ∈ r.sources.map Path.stem) :
    (r.conclude p).store.get? n = p.store.get? n := by
  unfold conclude
  split
  · change (p.store.records.filterKeys _).get? n = _
    rw [SortedMap.get?_filterKeys, if_pos (by simpa using hn)]
    rfl
  · rfl

theorem get?_conclude {p : Progress} {n : String} :
    (r.conclude p).store.get? n = none ∨ (r.conclude p).store.get? n = p.store.get? n := by
  unfold conclude
  split
  · change (p.store.records.filterKeys _).get? n = _ ∨ (p.store.records.filterKeys _).get? n = _
    rw [SortedMap.get?_filterKeys]
    split
    · exact .inr rfl
    · exact .inl rfl
  · exact .inr rfl

theorem routine_noted (h : r.begun? = some (store, s)) (n : String) :
    routineAt (noted r.sources store s) n = r.database.routines.get? n := by
  obtain ⟨-, hroutines, -, -⟩ := r.begun?_eq_some h
  rw [routineAt, database_noted, hroutines]

/-- In a run that gets to its sources a routine is passed by or visited once. -/
theorem fate (h : r.begun? = some (store, s)) (n : String) :
    r.Fate n (store.get? n) ((r.conclude (r.finish store s).1).store.get? n)
      (r.database.routines.get? n) (routineAt (r.finish store s) n) := by
  have hstart := routine_noted h n
  have hcanonical := canonical_noted h
  rw [← hstart]
  by_cases hn : n ∈ (StoredRoutines.visited r.sources).map Path.stem
  · -- the visit of its source, with the visits of other sources before and behind it
    obtain ⟨before, path, after, hpaths, rfl, hbefore, hafter⟩ :=
      split_at_stem (visited_nodup r.sources) hn
    let start := tour r.setting (noted r.sources store s) before
    let v : Visit := ⟨r.setting, start.1, start.2, path⟩
    have hvisits : r.visits = StoredRoutines.visits r.setting (noted r.sources store s) before ++
        v :: StoredRoutines.visits r.setting v.after after := by
      rw [visits_of_begun h, hpaths, visits_append]
      rfl
    have hfinish : r.finish store s = tour r.setting v.after after := by
      rw [finish, hpaths, tour_append]
      rfl
    have hmem : v ∈ r.visits := by
      rw [hvisits]
      exact List.mem_append_right _ List.mem_cons_self
    obtain ⟨hsource, hcount⟩ := mem_visited.1 (setting_of_mem_visits hmem).2
    have hsource : path.stem ∈ r.sources.map Path.stem := List.mem_map_of_mem hsource
    have hcount : (r.sources.map Path.stem).count path.stem ≤ 1 := hcount
    have hcanonicalAfter := (canonical_of_mem hmem).after
    refine .visited v hmem rfl ?_ ?_ ?_ ?_
    · refine (record_tour hbefore).trans ?_
      rw [record_noted, if_neg (by omega)]
    · refine (tour_others hcanonical hbefore).mono fun w hw => ?_
      rw [hvisits]
      exact List.mem_append_left _ hw
    · rw [get?_conclude_of_mem hsource, hfinish]
      exact record_tour hafter
    · rw [hfinish]
      refine (tour_others hcanonicalAfter hafter).mono fun w hw => ?_
      rw [hvisits]
      exact List.mem_append_right _ (List.mem_cons_of_mem _ hw)
  · -- without a visit only the duplicates and the removal at the end can concern its record
    refine .passed (fun v hv hvn => ?_) ?_ ?_
    · exact hn (hvn ▸ List.mem_map_of_mem (setting_of_mem_visits hv).2)
    · rcases get?_conclude (r := r) (p := (r.finish store s).1) (n := n) with hr | hr
      · exact .inl hr
      · rw [hr]
        change recordAt (r.finish store s) n = none ∨ recordAt (r.finish store s) n = _
        rw [finish, record_tour hn, record_noted]
        split
        · exact .inl rfl
        · exact .inr rfl
    · rw [visits_of_begun h]
      exact tour_others hcanonical hn

/-- A routine that is there at the end was there before and has not been replaced, or a visit has
    created it last. -/
theorem created_of_begun (h : r.begun? = some (store, s)) {n : String} {e : StoredRoutine}
    (he : routineAt (r.finish store s) n = some e) :
    (r.database.routines.get? n = some e ∧ ∀ v ∈ r.visits, ¬ v.CreatesName n) ∨
      ∃ v kind text, LastCreation r.visits n v kind text ∧ e = ⟨kind, text, r.session⟩ := by
  rw [visits_of_begun h, ← routine_noted h]
  exact tour_created (canonical_noted h) he

/-! ### Runs that fail -/

/-- A run that fails has brought to light a file under the path of the records: what it has made of
    the directories on the way lets the path lead to a file that was out of its reach. -/
def Unveils (r : Run) : Prop :=
  ¬ r.Completes ∧ r.files.doesExist r.recordsPath = false ∧
    (r.outcome.files.readText? r.recordsPath).isSome

theorem Completes.not_unveils (h : r.Completes) : ¬ r.Unveils :=
  fun hunveils => hunveils.1 h

/-- A run that fails leaves what is read under the path of the records, if anything is. -/
theorem sameAt_of_not_completes (h : ¬ r.Completes) {text : String}
    (htext : r.files.readText? r.recordsPath = some text) :
    FileTree.SameAt r.recordsPath r.files r.outcome.files := by
  cases hb : r.begun? with
  | none =>
    obtain ⟨e, -, hfiles, -⟩ := r.outcome_of_not_begun hb
    rw [hfiles]
    exact ⟨rfl, rfl⟩
  | some b =>
    obtain ⟨store, s⟩ := b
    obtain ⟨-, hsave⟩ := outcome_of_begun hb
    generalize hsaved : (r.conclude (r.finish store s).1).store.save r.files = saved at hsave
    match saved, hsave with
    | (.ok (), files), hsave => exact absurd ⟨_, hsave.1⟩ h
    | (.error e, files), hsave =>
      obtain rfl := hsave.2
      rw [← path_of_begun hb] at htext ⊢
      exact Store.sameAt_of_failed_save hsaved htext

/-- A run that does not complete leaves the records that are there as they were. -/
theorem load_of_not_completes (h : ¬ r.Completes) (hunveils : ¬ r.Unveils) {store : Store}
    (hload : Store.load r.outcome.files r.recordsPath = .ok store) :
    Store.load r.files r.recordsPath = .ok store := by
  cases htext : r.files.readText? r.recordsPath with
  | some text =>
    have hsame := sameAt_of_not_completes h htext
    exact (Store.load_of_sameAt hsame).symm.trans hload
  | none =>
    by_cases hexist : r.files.doesExist r.recordsPath
    -- there is something without a text, so the run has not even begun
    · have hb : r.begun? = none := by
        rw [begun?, Store.load, if_pos hexist, htext]
      obtain ⟨e, -, hfiles, -⟩ := r.outcome_of_not_begun hb
      rw [hfiles] at hload
      exact hload
    -- no file has come to light, so there are no records before and after
    · have hnone : r.outcome.files.readText? r.recordsPath = none := by
        by_contra hsome
        exact hunveils ⟨h, by simpa using hexist, Option.isSome_iff_ne_none.2 hsome⟩
      unfold Store.load at hload ⊢
      rw [if_neg hexist]
      rw [hnone] at hload
      split at hload
      · cases hload
      · exact hload

/-- What a run does to the record of a name in the file, and to the routine. -/
structure Change (r : Run) (n : String) (record record' : Option RoutineRecord)
    (routine routine' : Option StoredRoutine) : Prop where
  /-- The visits of the run, whose records are kept if the run completes. -/
  fate : ∃ final, r.Fate n record final routine routine' ∧
    record' = if r.Completes then final else record
  created : ∀ e, routine' = some e →
    (routine = some e ∧ ∀ v ∈ r.visits, ¬ v.CreatesName n) ∨
      ∃ v kind text, LastCreation r.visits n v kind text ∧ e = ⟨kind, text, r.session⟩

/-- Every run changes a record and a routine like this, given the records that it finds. -/
theorem change {kept : SortedMap RoutineRecord}
    (hkept : ∀ store, Store.load r.files r.recordsPath = .ok store → store.records = kept)
    (n : String) :
    r.Change n (kept.get? n) ((if r.Completes then r.records else kept).get? n)
      (r.database.routines.get? n) (r.outcome.session.database.routines.get? n) := by
  cases hb : r.begun? with
  | none =>
    obtain ⟨e, he, -, hroutines⟩ := r.outcome_of_not_begun hb
    have hcompletes : ¬ r.Completes := by
      rintro ⟨report, hreport⟩
      exact absurd (hreport.symm.trans he) nofun
    -- a run that does not begin makes no visits, so the routine is passed by
    have hvisits : r.visits = [] := by
      rw [visits, hb]
    rw [hroutines, if_neg hcompletes]
    refine ⟨⟨kept.get? n, .passed ?_ (.inr rfl) (.inl rfl), (if_neg hcompletes).symm⟩, ?_⟩
    · rw [hvisits]
      nofun
    · intro e he
      rw [hvisits]
      exact .inl ⟨he, nofun⟩
  | some b =>
    obtain ⟨store, s⟩ := b
    obtain ⟨hload, -⟩ := r.begun?_eq_some hb
    have hfate := fate hb n
    have hrecord : store.get? n = kept.get? n := by rw [← hkept store hload]; rfl
    rw [hrecord] at hfate
    rw [(outcome_of_begun hb).1]
    refine ⟨⟨_, hfate, ?_⟩, fun e he => created_of_begun hb he⟩
    split
    · rw [records_of_begun hb]
      rfl
    · rfl

/-- What a run does to a record and a routine, given the records that it has loaded. -/
theorem change_of_load (hload : Store.load r.files r.recordsPath = .ok store) (n : String) :
    r.Change n (store.get? n) ((if r.Completes then r.records else store.records).get? n)
      (r.database.routines.get? n) (r.outcome.session.database.routines.get? n) := by
  refine r.change (fun found hfound => ?_) n
  rw [Except.ok.inj (hload.symm.trans hfound)]

namespace Change

variable {n : String} {record record' : Option RoutineRecord}
  {routine routine' : Option StoredRoutine}

/-- A visit finds the record as it was before the run, and the routine as other sources have left
    it. -/
theorem found (h : r.Change n record record' routine routine') {v : Visit} (hv : v ∈ r.visits)
    (hn : v.name = n) :
    v.record? = record ∧ Others r.visits n r.session routine (v.routine? n) := by
  obtain ⟨final, hfate, -⟩ := h.fate
  cases hfate with
  | passed hpassed _ _ => exact absurd hn (hpassed v hv)
  | visited w hw hwn hbefore hroutine _ _ =>
    obtain rfl := visit_unique hv hw (hn.trans hwn.symm)
    exact ⟨hbefore, hroutine⟩

/-- What a visit leaves is what is left of its routine, unless other sources replace it. -/
theorem left (h : r.Change n record record' routine routine') {v : Visit} (hv : v ∈ r.visits)
    (hn : v.name = n) :
    (r.Completes → record' = v.after.1.store.get? v.name) ∧
      Others r.visits n r.session (v.routineAfter? n) routine' := by
  obtain ⟨final, hfate, hrecord⟩ := h.fate
  cases hfate with
  | passed hpassed _ _ => exact absurd hn (hpassed v hv)
  | visited w hw hwn _ _ hafter hroutine =>
    obtain rfl := visit_unique hv hw (hn.trans hwn.symm)
    refine ⟨fun hcompletes => ?_, hroutine⟩
    rw [hrecord, if_pos hcompletes, hafter]

/-- A run that skips a routine leaves its record and the routine. -/
theorem of_skips (h : r.Change n record record' routine routine') (hr : r.Completes) {v : Visit}
    (hv : v ∈ r.visits) (hn : v.name = n) (hskip : v.Skips) :
    record' = v.record? ∧ routine' = v.routine? n := by
  obtain ⟨hrecord, hroutine⟩ := h.left hv hn
  obtain ⟨m, e, -, he⟩ := hskip.recorded
  have hafter := v.after_of_skips hskip
  refine ⟨?_, ?_⟩
  · rw [hrecord hr, hafter]
    rfl
  · have hsame : v.routineAfter? n = v.routine? n := by
      rw [Visit.routineAfter?, hafter]
      rfl
    rw [hn] at he
    rw [hsame, he] at hroutine
    rw [he]
    exact hroutine.of_some

/-- A record after a run has been there before, and no visit has had to do with it, or it is that of
    a load. -/
theorem kept_or_loaded {m : RoutineRecord}
    (h : r.Change n record (some m) routine routine') :
    (record = some m ∧ (r.Completes → (∀ v ∈ r.visits, v.name = n → v.Skips) ∧
        Others r.visits n r.session routine routine')) ∨
      (r.Completes ∧ ∃ v ∈ r.visits, v.name = n ∧
        ∃ source parsed d, v.Loads source parsed m d) := by
  by_cases hr : r.Completes
  · obtain ⟨final, hfate, hrecord⟩ := h.fate
    rw [if_pos hr] at hrecord
    subst hrecord
    cases hfate with
    | passed hpassed hrecord hroutine =>
      rcases hrecord with hrecord | hrecord
      · cases hrecord
      · exact .inl ⟨hrecord.symm, fun _ => ⟨fun v hv hn => absurd hn (hpassed v hv), hroutine⟩⟩
    | visited v hv hn hbefore hroutine hafter hroutine' =>
      rcases v.record_after hafter.symm with ⟨hskip, hkept⟩ | hload
      · refine .inl ⟨hbefore.symm.trans hkept, fun _ => ⟨fun w hw hwn => ?_, ?_⟩⟩
        · obtain rfl := visit_unique hw hv (hwn.trans hn.symm)
          exact hskip
        · rw [(h.of_skips hr hv hn hskip).2]
          exact hroutine
      · exact .inr ⟨hr, v, hv, hn, hload⟩
  -- the records in the file are those from before
  · obtain ⟨final, -, hrecord⟩ := h.fate
    rw [if_neg hr] at hrecord
    exact .inl ⟨hrecord.symm, fun hcompletes => absurd hcompletes hr⟩

/-- If the source of the name is installed, then the routine that is there in the end has been
    created in this run. -/
theorem created_of_installs (h : r.Change n record record' routine routine') {v : Visit}
    (hv : v ∈ r.visits) (hn : v.name = n) {source : Source} {parsed : ParsedRoutine} {d : InMemory}
    (hinstalls : v.Installs source parsed d) {e : StoredRoutine} (he : routine' = some e) :
    ∃ w kind text, LastCreation r.visits n w kind text ∧ e = ⟨kind, text, r.session⟩ := by
  rcases h.created e he with ⟨-, hnone⟩ | hcreated
  -- the previous version has been dropped, and nobody has created another one
  · have hdropped : v.routineAfter? n = none := by
      rw [Visit.routineAfter?, hinstalls.routines_eq]
      rcases hinstalls.routine? (canonical_of_mem hv) n with
        ⟨-, hd⟩ | ⟨hne, -⟩ | ⟨⟨kind, name⟩, text, hcreates, hname, -⟩
      · exact hd
      · exact absurd hn.symm hne
      · obtain rfl : name = n := hname
        exact absurd ⟨kind, text, hcreates⟩ (hnone v hv)
    have hothers := (h.left hv hn).2
    rw [hdropped, he] at hothers
    rcases hothers with hsame | ⟨-, w, hw, -, kind, text, hcreates, -⟩
    · cases hsame
    · exact absurd ⟨kind, text, hcreates⟩ (hnone w hw)
  · exact hcreated

end Change

/-! ### Statements -/

/-- The statements of a run are those that find out the SQL mode and those of its visits. -/
theorem logged_of_begun (h : r.begun? = some (store, s)) :
    (Frame.logged fun sql => sql = Database.sqlModeStatement r.config.loader.session.sqlMode ∨
      sql = Loading.sqlModeQuery ∨ ∃ v ∈ r.visits, ¬ v.Skips ∧
        InMemory.Sent v.name v.Text sql).rel r.database r.outcome.session.database := by
  have hvisits :=
    @logged_tour r.setting (noted r.sources store s) (StoredRoutines.visited r.sources)
  rw [← visits_of_begun h, database_noted] at hvisits
  rw [(outcome_of_begun h).1]
  refine Frame.trans _ (Frame.logged_mono (fun sql hsql => ?_) (r.logged_begun h))
    (Frame.logged_mono (fun sql hsql => .inr (.inr hsql)) hvisits)
  exact hsql.imp_right .inl

/-! ### Runs whose records are known -/

theorem ok_of_toOption {ε α : Type} {x : Except ε α} {a : α} (h : x.toOption = some a) :
    x = .ok a := by
  cases x with
  | ok b => rw [Option.some.inj h]
  | error e => cases h

/-- The result and the database at the end of a run that gets to its sources, given the records
    that it finds. -/
def ending? (r : Run) (store : Store) : Option (Except StoreError Report × InMemory) :=
  if r.isReady then
    let (p, s) := r.finish store r.prepared
    let saved := (r.conclude p).store.save r.files
    some (saved.1.map fun () => (r.conclude p).report, s.database)
  else none

theorem database_of_ending? {result : Except StoreError Report} {d d₀ : InMemory}
    (h : r.ending? store = some (result, d)) : ((r.ending? store).map (·.2)).getD d₀ = d := by
  rw [h]
  rfl

/-- What a run ends with on known records is its outcome if it loads these records. -/
theorem outcome_of_ending? {result : Except StoreError Report} {d : InMemory}
    (hload : Store.load r.files r.recordsPath = .ok store)
    (h : r.ending? store = some (result, d)) :
    r.outcome.result = result.mapError RunError.store ∧ r.outcome.session.database = d := by
  unfold ending? at h
  obtain ⟨hready, h⟩ := Option.ite_none_right_eq_some.1 h
  obtain ⟨rfl, rfl⟩ := Prod.mk.inj (Option.some.inj h)
  obtain ⟨hdatabase, hresult⟩ := outcome_of_begun (r.begun?_of_load hload hready)
  refine ⟨?_, hdatabase⟩
  change r.outcome.result = (((r.conclude (r.finish store r.prepared).1).store.save
    r.files).1.map _).mapError _
  generalize (r.conclude (r.finish store r.prepared).1).store.save r.files = saved at hresult ⊢
  match saved, hresult with
  | (.ok (), files), hresult => exact hresult.1
  | (.error e, files), hresult => exact hresult.1

end Run

end StoredRoutines
