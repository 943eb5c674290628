import Mathlib.Data.List.Induction
import StoredRoutines.Proofs.Batch.History

/-!
# Bookkeeping

Whatever a database answers, a run accounts for each of its routines once, and its records agree
with its report.

## Main definitions

- `loadAll`, `noteAll` — the two loops over the sources of a list
- `Books` — the report and the records agree, for the routines dealt with so far
- `Accounts` — what is guaranteed once all sources of a list have been dealt with

## Main results

- `loadSource_eq_ok` — what the outcomes of a single source tell
- `bookkeeping` — the guarantees of a list and of a run
-/

namespace StoredRoutines

variable {σ : Type} {db : Database σ} {setting : RunSetting}

/-! ### Single sources -/

/-- A source that is not loaded has a record; one that is loaded gets a record with its name and
    its time. -/
theorem loadSource_eq_ok {store : Store} {path : Path} {s s' : Session σ}
    {outcome : Option RoutineRecord} (h : loadSource db setting store path s = .ok outcome s') :
    (outcome = none ∧ ∃ record, store.get? path.stem = some record) ∨
      ∃ record, outcome = some record ∧ record.name = path.stem ∧
        modifiedTime setting.files path = .ok record.timestamp := by
  unfold loadSource at h
  obtain ⟨modified, a, ha, hcatalog⟩ := Loading.bind_eq_ok_iff.1 h
  obtain ⟨hm, -⟩ := Loading.ofExcept_eq_ok_iff.1 ha
  obtain ⟨catalog, b, -, hdecide⟩ := Loading.bind_eq_ok_iff.1 hcatalog
  cases hreason : reloadReason? (store.get? path.stem) modified setting.table catalog
    setting.session with
  | none =>
    simp only [hreason] at hdecide
    obtain ⟨record, -, hrecord, -⟩ := reloadReason?_eq_none_iff.1 hreason
    exact .inl ⟨(Loading.pure_eq_ok_iff.1 hdecide).1.symm, record, hrecord⟩
  | some reason =>
    simp only [hreason] at hdecide
    obtain ⟨source, c, hc, hload⟩ := Loading.bind_eq_ok_iff.1 hdecide
    obtain ⟨hread, -⟩ := Loading.ofExcept_eq_ok_iff.1 hc
    obtain ⟨record, d, hd, hend⟩ := Loading.bind_eq_ok_iff.1 hload
    -- the text declares the name of the file that the path leads to, which is that of the path
    obtain ⟨parsed, -, hparse, -, hrecord, -⟩ := Loading.routine_eq_ok hd
    obtain ⟨-, -, -, hname, -⟩ := Loading.parse_eq_ok hparse
    refine .inr ⟨record, (Loading.pure_eq_ok_iff.1 hend).1.symm, ?_, ?_⟩
    · rw [hrecord.name, hname, stem_of_readSource hread]
    · rw [hm, hrecord.timestamp, mtime_of_readSource hread hm]

/-! ### The books -/

/-- For the routines dealt with so far, the report lists each name once and the records agree with
    it; the records of all other routines are those in `store`. A record of a loaded routine has
    been made in the way that `Made` says. -/
structure Books (store : Store) (Made : String → RoutineRecord → Prop) (names : List String)
    (p : Progress) : Prop where
  complete : (p.report.loaded ++ p.report.unchanged ++ p.report.failed.map (·.1)).Perm names
  loaded : ∀ n ∈ p.report.loaded, ∃ record, p.store.get? n = some record ∧ Made n record
  unchanged : ∀ n ∈ p.report.unchanged,
    ∃ record, store.get? n = some record ∧ p.store.get? n = some record
  failed : ∀ n ∈ p.report.failed.map (·.1), p.store.get? n = none
  others : ∀ n, n ∉ names → p.store.get? n = store.get? n
  path : p.store.path = store.path
  removed : p.report.removed = []

namespace Books

variable {store : Store} {Made Made' : String → RoutineRecord → Prop} {names : List String}
  {p : Progress} {n : String}

/-- Before the first source the books are empty. -/
theorem empty (store : Store) (Made : String → RoutineRecord → Prop) :
    Books store Made [] ⟨store, .empty⟩ where
  complete := .refl _
  loaded := by simp [Report.empty]
  unchanged := by simp [Report.empty]
  failed := by simp [Report.empty]
  others _ _ := rfl
  path := rfl
  removed := rfl

theorem mono (h : Books store Made names p) (hmade : ∀ n record, Made n record → Made' n record) :
    Books store Made' names p where
  complete := h.complete
  loaded n hn := by
    obtain ⟨record, hrecord, hmaderecord⟩ := h.loaded n hn
    exact ⟨record, hrecord, hmade n record hmaderecord⟩
  unchanged := h.unchanged
  failed := h.failed
  others := h.others
  path := h.path
  removed := h.removed

/-- A routine has an outcome exactly if it has been dealt with. -/
theorem mem_iff (h : Books store Made names p) (m : String) :
    m ∈ names ↔ m ∈ p.report.loaded ∨ m ∈ p.report.unchanged ∨
      m ∈ p.report.failed.map (·.1) := by
  rw [← h.complete.mem_iff, List.mem_append, List.mem_append, or_assoc]

/-- A routine that has not been dealt with is on no list. -/
theorem ne_of_mem (h : Books store Made names p) (hn : n ∉ names) {m : String}
    (hm : m ∈ p.report.loaded ∨ m ∈ p.report.unchanged ∨ m ∈ p.report.failed.map (·.1)) :
    m ≠ n := by
  rintro rfl
  exact hn ((h.mem_iff m).2 hm)

theorem addLoaded (h : Books store Made names p) (hn : n ∉ names) {record : RoutineRecord}
    (hname : record.name = n) (hmade : Made n record) :
    Books store Made (names ++ [n]) (p.addLoaded n record) where
  complete := by
    -- the new name is counted once, among those that are loaded
    refine List.perm_iff_count.2 fun a => ?_
    have hcount := h.complete.count_eq a
    simp only [Progress.addLoaded, List.count_append] at hcount ⊢
    omega
  loaded m hm := by
    rcases List.mem_append.1 hm with hm | hm
    · obtain ⟨found, hfound, hfoundMade⟩ := h.loaded m hm
      refine ⟨found, ?_, hfoundMade⟩
      rw [Progress.get?_addLoaded, hname, if_neg (h.ne_of_mem hn (.inl hm)), hfound]
    · obtain rfl := List.mem_singleton.1 hm
      refine ⟨record, ?_, hmade⟩
      rw [Progress.get?_addLoaded, if_pos hname.symm]
  unchanged m hm := by
    obtain ⟨found, hfound, hkept⟩ := h.unchanged m hm
    refine ⟨found, hfound, ?_⟩
    rw [Progress.get?_addLoaded, hname, if_neg (h.ne_of_mem hn (.inr (.inl hm))), hkept]
  failed m hm := by
    rw [Progress.get?_addLoaded, hname, if_neg (h.ne_of_mem hn (.inr (.inr hm)))]
    exact h.failed m hm
  others m hm := by
    rw [List.mem_append, List.mem_singleton, not_or] at hm
    rw [Progress.get?_addLoaded, hname, if_neg hm.2, h.others m hm.1]
  path := h.path
  removed := h.removed

theorem addUnchanged (h : Books store Made names p) (hn : n ∉ names)
    (hrecord : ∃ record, p.store.get? n = some record) :
    Books store Made (names ++ [n]) (p.addUnchanged n) where
  complete := by
    refine List.perm_iff_count.2 fun a => ?_
    have hcount := h.complete.count_eq a
    simp only [Progress.addUnchanged, List.count_append] at hcount ⊢
    omega
  loaded := h.loaded
  unchanged m hm := by
    rcases List.mem_append.1 hm with hm | hm
    · exact h.unchanged m hm
    · obtain rfl := List.mem_singleton.1 hm
      obtain ⟨record, hrecord⟩ := hrecord
      exact ⟨record, (h.others m hn).symm.trans hrecord, hrecord⟩
  failed := h.failed
  others m hm := h.others m fun hmem => hm (List.mem_append_left _ hmem)
  path := h.path
  removed := h.removed

theorem addFailed (h : Books store Made names p) (hn : n ∉ names) (message : String) :
    Books store Made (names ++ [n]) (p.addFailed n message) where
  complete := by
    -- the new name is counted once, among those that have failed
    refine List.perm_iff_count.2 fun a => ?_
    have hcount := h.complete.count_eq a
    simp only [Progress.addFailed, List.map_append, List.map_cons, List.map_nil,
      List.count_append] at hcount ⊢
    omega
  loaded m hm := by
    obtain ⟨found, hfound, hmade⟩ := h.loaded m hm
    refine ⟨found, ?_, hmade⟩
    rw [Progress.get?_addFailed, if_neg (h.ne_of_mem hn (.inl hm)), hfound]
  unchanged m hm := by
    obtain ⟨found, hfound, hkept⟩ := h.unchanged m hm
    refine ⟨found, hfound, ?_⟩
    rw [Progress.get?_addFailed, if_neg (h.ne_of_mem hn (.inr (.inl hm))), hkept]
  failed m hm := by
    rw [Progress.get?_addFailed]
    by_cases hmn : m = n
    · exact if_pos hmn
    · rw [if_neg hmn]
      simp only [Progress.addFailed, List.map_append, List.mem_append] at hm
      rcases hm with hm | hm
      · exact h.failed m hm
      · exact absurd (List.mem_singleton.1 hm) hmn
  others m hm := by
    rw [List.mem_append, List.mem_singleton, not_or] at hm
    rw [Progress.get?_addFailed, if_neg hm.2, h.others m hm.1]
  path := h.path
  removed := h.removed

end Books

/-! ### The loops -/

/-- The progress after the routines with more than one source have been noted. -/
def noteAll (paths : List Path) (store : Store) (s : Session σ) : Progress × Session σ :=
  (duplicates paths).foldl (fun (p, s) d => noteDuplicate p s d.1 d.2) (⟨store, .empty⟩, s)

/-- The progress after all sources of a list have been loaded. -/
def loadAll (db : Database σ) (setting : RunSetting) (start : Progress × Session σ)
    (paths : List Path) : Progress × Session σ :=
  paths.foldl (fun (p, s) path => loadPath db setting p s path) start

theorem loadSources_eq_loadAll (paths : List Path) (store : Store) (s : Session σ) :
    loadSources db setting paths store s =
      loadAll db setting (noteAll paths store s) (visited paths) := rfl

theorem loadAll_concat (start : Progress × Session σ) (paths : List Path) (path : Path) :
    loadAll db setting start (paths ++ [path]) =
      loadPath db setting (loadAll db setting start paths).1 (loadAll db setting start paths).2
        path :=
  List.foldl_concat ..

/-- In its turn, the source at a path has been loaded with a record as the answer. -/
def Yields (db : Database σ) (setting : RunSetting) (start : Progress × Session σ)
    (paths : List Path) (path : Path) (record : RoutineRecord) : Prop :=
  ∃ before after s, paths = before ++ path :: after ∧
    loadSource db setting (loadAll db setting start before).1.store path
      (loadAll db setting start before).2 = .ok (some record) s

/-- A record under a name is that of a source of the list. -/
def MadeFrom (db : Database σ) (setting : RunSetting) (start : Progress × Session σ)
    (paths : List Path) (n : String) (record : RoutineRecord) : Prop :=
  ∃ path ∈ paths, path.stem = n ∧ record.name = n ∧
    modifiedTime setting.files path = .ok record.timestamp ∧
    Yields db setting start paths path record

theorem MadeFrom.concat {start : Progress × Session σ} {paths : List Path} {n : String}
    {record : RoutineRecord} (h : MadeFrom db setting start paths n record) (path : Path) :
    MadeFrom db setting start (paths ++ [path]) n record := by
  obtain ⟨source, hmem, hstem, hname, htime, before, after, s, hpaths, hload⟩ := h
  refine ⟨source, List.mem_append_left _ hmem, hstem, hname, htime, before, after ++ [path], s, ?_,
    hload⟩
  rw [hpaths, List.append_assoc, List.cons_append]

/-- Noting the duplicates deals with each of them. -/
theorem Books.noteDuplicates {store : Store} {Made : String → RoutineRecord → Prop}
    {ds : List (String × List Path)} (hnodup : (ds.map (·.1)).Nodup) (s : Session σ) :
    Books store Made (ds.map (·.1))
      (ds.foldl (fun (p, s) d => noteDuplicate p s d.1 d.2) (⟨store, .empty⟩, s)).1 := by
  induction ds using List.reverseRecOn with
  | nil => exact .empty store Made
  | append_singleton ds d ih =>
    rw [List.map_append, List.nodup_append] at hnodup
    obtain ⟨hds, -, hdisjoint⟩ := hnodup
    have hd : d.1 ∉ ds.map (·.1) := fun hmem =>
      hdisjoint d.1 hmem d.1 (List.mem_singleton_self _) rfl
    rw [List.map_append, List.foldl_concat]
    exact (ih hds).addFailed hd _

/-- Loading the sources of a list keeps the books, if none of them has been dealt with before. -/
theorem Books.loadAll {store : Store} {names : List String} {start : Progress × Session σ}
    (hstart : Books store (fun _ _ => False) names start.1) {paths : List Path}
    (hnodup : (names ++ paths.map Path.stem).Nodup) :
    Books store (MadeFrom db setting start paths) (names ++ paths.map Path.stem)
      (loadAll db setting start paths).1 := by
  -- from the end of the list, since each source starts from where those before it have led
  induction paths using List.reverseRecOn with
  | nil =>
    rw [List.map_nil, List.append_nil]
    exact hstart.mono fun _ _ => False.elim
  | append_singleton paths path ih =>
    rw [List.map_append, ← List.append_assoc, List.nodup_append] at hnodup
    obtain ⟨hbefore, -, hdisjoint⟩ := hnodup
    have hnew : path.stem ∉ names ++ paths.map Path.stem := fun hmem =>
      hdisjoint path.stem hmem path.stem (List.mem_singleton_self _) rfl
    have hbooks := (ih hbefore).mono fun _ _ h => h.concat path
    rw [List.map_append, ← List.append_assoc, loadAll_concat]
    generalize hat : StoredRoutines.loadAll db setting start paths = reached at hbooks
    cases hload : loadSource db setting reached.1.store path reached.2 with
    | error e s =>
      rw [loadPath_of_error hload]
      exact hbooks.addFailed hnew e.message
    | ok outcome s =>
      rcases loadSource_eq_ok hload with ⟨rfl, hrecord⟩ | ⟨record, rfl, hname, htime⟩
      · rw [loadPath_of_none hload]
        exact hbooks.addUnchanged hnew hrecord
      · rw [loadPath_of_some hload]
        refine hbooks.addLoaded hnew hname ⟨path, ?_, rfl, hname, htime, paths, [], s, rfl, ?_⟩
        · exact List.mem_append_right _ (List.mem_singleton_self path)
        · rw [hat, hload]

/-! ### The sources of a list -/

/-- The routines with more than one source are listed in the order of their names. -/
theorem nodup_duplicates (paths : List Path) : ((duplicates paths).map (·.1)).Nodup := by
  unfold duplicates
  rw [List.map_filterMap]
  have hsorted : (sortedDistinct (paths.map Path.stem)).Pairwise (· < ·) := SortedMap.keys_sorted _
  refine hsorted.filterMap _ fun a b hab x hx y hy => ?_
  have hname : ∀ {name z : String}, (if 1 < (paths.filter fun p => p.stem == name).length then
      some (name, paths.filter fun p => p.stem == name) else none).map (·.1) = some z →
      name = z := by
    intro name z hz
    obtain ⟨pair, hpair, rfl⟩ := Option.map_eq_some_iff.1 hz
    obtain ⟨-, hpair⟩ := Option.ite_none_right_eq_some.1 hpair
    rw [← Option.some.inj hpair]
  rw [← hname hx, ← hname hy]
  rintro rfl
  exact String.lt_irrefl a hab

/-- The routines that are noted as duplicates and those that are visited are all there are. -/
theorem mem_stems {paths : List Path} {n : String} :
    n ∈ (duplicates paths).map (·.1) ++ (visited paths).map Path.stem ↔
      n ∈ paths.map Path.stem := by
  rw [List.mem_append, mem_duplicates]
  constructor
  · rintro (h | h)
    · exact List.count_pos_iff.1 (by omega)
    · obtain ⟨p, hp, rfl⟩ := List.mem_map.1 h
      exact List.mem_map_of_mem (mem_visited.1 hp).1
  · intro h
    by_cases hcount : 1 < (paths.map Path.stem).count n
    · exact .inl hcount
    · obtain ⟨p, hp, rfl⟩ := List.mem_map.1 h
      exact .inr (List.mem_map_of_mem (mem_visited.2 ⟨hp, by omega⟩))

/-- No routine is both a duplicate and visited, and none of either kind occurs twice. -/
theorem nodup_stems (paths : List Path) :
    ((duplicates paths).map (·.1) ++ (visited paths).map Path.stem).Nodup := by
  refine List.nodup_append.2 ⟨nodup_duplicates paths, visited_nodup paths, ?_⟩
  rintro n hn _ hm rfl
  obtain ⟨p, hp, rfl⟩ := List.mem_map.1 hm
  have hcount := (mem_visited.1 hp).2
  have hmany := mem_duplicates.1 hn
  omega

/-- What is guaranteed when the sources of a list have been loaded, starting with the records of a
    store: each routine has one outcome, and its record is the one that goes with this outcome. -/
structure Accounts (db : Database σ) (setting : RunSetting) (paths : List Path) (store : Store)
    (s : Session σ) (p : Progress) : Prop where
  /-- No name is listed twice. -/
  nodup : (p.report.loaded ++ p.report.unchanged ++ p.report.failed.map (·.1)).Nodup
  /-- The names are those of the sources. -/
  mem_iff : ∀ n, n ∈ p.report.loaded ++ p.report.unchanged ++ p.report.failed.map (·.1) ↔
    n ∈ paths.map Path.stem
  /-- Routines with more than one source fail. -/
  shared : ∀ n, 1 < (paths.map Path.stem).count n → n ∈ p.report.failed.map (·.1)
  /-- The record of a loaded routine has been made by the load of its source in its turn. -/
  loaded : ∀ n ∈ p.report.loaded, ∃ record, p.store.get? n = some record ∧
    MadeFrom db setting (noteAll paths store s) (visited paths) n record
  unchanged : ∀ n ∈ p.report.unchanged,
    ∃ record, store.get? n = some record ∧ p.store.get? n = some record
  failed : ∀ n ∈ p.report.failed.map (·.1), p.store.get? n = none
  others : ∀ n, n ∉ paths.map Path.stem → p.store.get? n = store.get? n

section

variable {paths : List Path} {store : Store} {s : Session σ}

/-- At the end of the sources the books are kept for all of their routines. -/
theorem books_loadSources :
    Books store (MadeFrom db setting (noteAll paths store s) (visited paths))
      ((duplicates paths).map (·.1) ++ (visited paths).map Path.stem)
      (loadSources db setting paths store s).1 := by
  rw [loadSources_eq_loadAll]
  exact (Books.noteDuplicates (nodup_duplicates paths) s).loadAll (nodup_stems paths)

/-- A failure that has been noted stays on the list. -/
theorem mem_failed_loadAll {start : Progress × Session σ} {paths : List Path}
    {failure : String × String} (h : failure ∈ start.1.report.failed) :
    failure ∈ (loadAll db setting start paths).1.report.failed := by
  induction paths using List.reverseRecOn with
  | nil => exact h
  | append_singleton paths path ih =>
    rw [loadAll_concat]
    generalize loadAll db setting start paths = reached at ih ⊢
    cases hload : loadSource db setting reached.1.store path reached.2 with
    | error e s =>
      rw [loadPath_of_error hload]
      exact List.mem_append_left _ ih
    | ok outcome s =>
      cases outcome with
      | none =>
        rw [loadPath_of_none hload]
        exact ih
      | some record =>
        rw [loadPath_of_some hload]
        exact ih

/-- Each duplicate is reported as a failure with its sources, in order. -/
theorem failed_noteDuplicates (ds : List (String × List Path)) (start : Progress × Session σ) :
    (ds.foldl (fun (p, s) d => noteDuplicate p s d.1 d.2) start).1.report.failed =
      start.1.report.failed ++ ds.map fun d => (d.1, duplicateMessage d.1 d.2) := by
  induction ds generalizing start with
  | nil => rw [List.map_nil, List.append_nil, List.foldl_nil]
  | cons d ds ih =>
    rw [List.foldl_cons, ih, List.map_cons]
    simp only [noteDuplicate, Progress.addFailed, List.append_assoc]
    rfl

theorem failed_noteAll : (noteAll paths store s).1.report.failed =
    (duplicates paths).map fun d => (d.1, duplicateMessage d.1 d.2) :=
  failed_noteDuplicates _ _

/-- A routine with more than one source is reported with all of them. -/
theorem mem_failed_of_repeated {n : String} (hn : 1 < (paths.map Path.stem).count n) :
    (n, duplicateMessage n (paths.filter fun p => p.stem == n)) ∈
      (loadSources db setting paths store s).1.report.failed := by
  rw [loadSources_eq_loadAll]
  apply mem_failed_loadAll
  rw [failed_noteAll]
  exact List.mem_map_of_mem (f := fun d => (d.1, duplicateMessage d.1 d.2))
    (mem_duplicates_iff.2 ⟨hn, rfl⟩)

/-- At the end of the sources each routine is accounted for. -/
theorem accounts_loadSources :
    Accounts db setting paths store s (loadSources db setting paths store s).1 := by
  have hbooks := @books_loadSources σ db setting paths store s
  refine ⟨?_, fun n => ?_, fun n hn => ?_, hbooks.loaded, hbooks.unchanged, hbooks.failed, ?_⟩
  · exact hbooks.complete.nodup_iff.2 (nodup_stems paths)
  · rw [hbooks.complete.mem_iff, mem_stems]
  · exact List.mem_map_of_mem (f := Prod.fst) (mem_failed_of_repeated hn)
  · intro n hn
    exact hbooks.others n fun hmem => hn (mem_stems.1 hmem)

end

/-! ### Runs -/

theorem eq_ok_of_mapError {ε ε' α : Type} {f : ε → ε'} {x : Except ε α} {a : α}
    (h : x.mapError f = .ok a) : x = .ok a := by
  cases x with
  | error e => cases h
  | ok b =>
    cases h
    rfl

section

variable {config : Config} {listed : List Path} {files : FileTree} {s : Session σ}

/-- What the sources of a run have become when it saves its records. -/
theorem loadPhase_eq_ok {s' : Session σ} {progress : Progress}
    (h : loadPhase db config listed files s = .ok progress s') :
    ∃ setting prior paths t, setting.files = files ∧
      Store.load files config.loader.recordsPath = .ok prior ∧
      (if listed.isEmpty then discover files config.loader else .ok listed) = .ok paths ∧
      progress = if listed.isEmpty then (loadSources db setting paths prior t).1.removeAbsent paths
        else (loadSources db setting paths prior t).1 := by
  unfold loadPhase at h
  obtain ⟨table, a, -, hstore⟩ := Loading.bind_eq_ok_iff.1 h
  obtain ⟨prior, b, hb, hsession⟩ := Loading.bind_eq_ok_iff.1 hstore
  obtain ⟨hprior, -⟩ := Loading.ofExcept_eq_ok_iff.1 hb
  obtain ⟨session, c, -, hsources⟩ := Loading.bind_eq_ok_iff.1 hsession
  -- what comes behind depends only on whether sources have been listed
  clear h hstore hsession
  cases hlisted : listed.isEmpty with
  | true =>
    simp only [hlisted, if_true] at hsources
    obtain ⟨paths, d, hd, hload⟩ := Loading.bind_eq_ok_iff.1 hsources
    obtain ⟨hpaths, -⟩ := Loading.ofExcept_eq_ok_iff.1 hd
    obtain ⟨reached, e, he, hend⟩ := Loading.bind_eq_ok_iff.1 hload
    obtain ⟨_, u, -, hfinal⟩ := Loading.bind_eq_ok_iff.1 hend
    obtain ⟨rfl, -⟩ := Loading.pure_eq_ok_iff.1 hfinal
    obtain rfl := (EStateM.Result.ok.inj he).1
    exact ⟨⟨files, table, session⟩, prior, paths, d, rfl, eq_ok_of_mapError hprior,
      eq_ok_of_mapError hpaths, rfl⟩
  | false =>
    simp only [hlisted, Bool.false_eq_true, if_false] at hsources
    obtain ⟨paths, d, hd, hload⟩ := Loading.bind_eq_ok_iff.1 hsources
    obtain ⟨rfl, -⟩ := Loading.pure_eq_ok_iff.1 hd
    obtain ⟨reached, e, he, hfinal⟩ := Loading.bind_eq_ok_iff.1 hload
    obtain ⟨rfl, -⟩ := Loading.pure_eq_ok_iff.1 hfinal
    obtain rfl := (EStateM.Result.ok.inj he).1
    exact ⟨⟨files, table, session⟩, prior, listed, d, rfl, eq_ok_of_mapError hprior, rfl, rfl⟩

/-- A run that answers with a report has saved its records where the next run finds them. -/
theorem run_eq_ok {report : Report} (h : (run db config listed files s).result = .ok report) :
    ∃ progress s', loadPhase db config listed files s = .ok progress s' ∧
      report = progress.report ∧
      Store.load (run db config listed files s).files progress.store.path = .ok progress.store := by
  cases hphase : loadPhase db config listed files s with
  | error e s' =>
    rw [run, hphase] at h
    cases h
  | ok progress s' =>
    refine ⟨progress, s', rfl, ?_⟩
    rcases hsave : progress.store.save files with ⟨e | u, saved⟩
    · have hrun : run db config listed files s = ⟨.error (.store e), s', saved⟩ := by
        rw [run, hphase]
        simp only [hsave]
      rw [hrun] at h
      cases h
    · have hrun : run db config listed files s = ⟨.ok progress.report, s', saved⟩ := by
        rw [run, hphase]
        simp only [hsave]
      rw [hrun] at h ⊢
      obtain rfl := Except.ok.inj h
      exact ⟨rfl, Store.load_of_save hsave ⟨rfl, rfl⟩⟩

/-! ### Records without a source -/

theorem mem_names_removeAbsent {p : Progress} {paths : List Path} {n : String} :
    n ∈ (p.removeAbsent paths).store.names ↔
      n ∈ paths.map Path.stem ∧ ∃ record, p.store.get? n = some record := by
  change n ∈ (p.store.records.filterKeys _).keys ↔ _
  rw [SortedMap.mem_keys_iff, SortedMap.get?_filterKeys, Option.isSome_iff_exists]
  by_cases hn : n ∈ paths.map Path.stem
  · rw [if_pos (by simpa using hn)]
    exact (and_iff_right hn).symm
  · rw [if_neg (by simpa using hn)]
    simp [hn]

theorem mem_removed_removeAbsent {p : Progress} {paths : List Path} {n : String} :
    n ∈ (p.removeAbsent paths).report.removed ↔
      n ∉ paths.map Path.stem ∧ ∃ record, p.store.get? n = some record := by
  change n ∈ p.store.records.keys.filter _ ↔ _
  rw [List.mem_filter, SortedMap.mem_keys_iff, Option.isSome_iff_exists, and_comm]
  refine and_congr_left fun _ => ?_
  rw [Bool.not_eq_true', Bool.eq_false_iff, ne_eq, List.contains_iff_mem]

namespace Accounts

variable {setting : RunSetting} {paths : List Path} {store : Store} {p : Progress}

/-- A routine with a source has a record in the end exactly if it was loaded or skipped. -/
theorem recorded_iff (h : Accounts db setting paths store s p) {n : String}
    (hn : n ∈ paths.map Path.stem) :
    (∃ record, p.store.get? n = some record) ↔ n ∈ p.report.loaded ++ p.report.unchanged := by
  constructor
  · rintro ⟨record, hrecord⟩
    rcases List.mem_append.1 ((h.mem_iff n).2 hn) with hmem | hfailed
    · exact hmem
    · rw [h.failed n hfailed] at hrecord
      cases hrecord
  · intro hmem
    rcases List.mem_append.1 hmem with hloaded | hunchanged
    · obtain ⟨record, hrecord, -⟩ := h.loaded n hloaded
      exact ⟨record, hrecord⟩
    · obtain ⟨record, -, hrecord⟩ := h.unchanged n hunchanged
      exact ⟨record, hrecord⟩

/-- After a full run there are records of the routines that have not failed, and of no others. -/
theorem names_removeAbsent (h : Accounts db setting paths store s p) :
    (p.removeAbsent paths).store.names.Perm (p.report.loaded ++ p.report.unchanged) := by
  have hnodup : (p.removeAbsent paths).store.names.Nodup := by
    refine (SortedMap.keys_sorted _).imp ?_
    rintro a _ hlt rfl
    exact String.lt_irrefl a hlt
  refine (List.perm_ext_iff_of_nodup hnodup (List.nodup_append.1 h.nodup).1).2 fun n => ?_
  rw [mem_names_removeAbsent]
  constructor
  · rintro ⟨hn, hrecord⟩
    exact (h.recorded_iff hn).1 hrecord
  · intro hmem
    have hn := (h.mem_iff n).1 (List.mem_append_left _ hmem)
    exact ⟨hn, (h.recorded_iff hn).2 hmem⟩

/-- A full run removes the records that were there before and have no source. -/
theorem removed_removeAbsent (h : Accounts db setting paths store s p) :
    (p.removeAbsent paths).report.removed.Pairwise (· < ·) ∧
      ∀ n, n ∈ (p.removeAbsent paths).report.removed ↔
        n ∉ paths.map Path.stem ∧ n ∈ store.names := by
  refine ⟨(SortedMap.keys_sorted _).filter _, fun n => ?_⟩
  rw [mem_removed_removeAbsent]
  refine and_congr_right fun hn => ?_
  rw [h.others n hn, Store.names, SortedMap.mem_keys_iff, Option.isSome_iff_exists]
  rfl

end Accounts

end

/-- Whatever a database answers, loading the sources of a list accounts for each of their routines
    once, and keeps the records that go with the outcomes. A full run that answers with a report
    saves the records of the routines that have not failed and removes, in order, those that have
    no source; a run on listed sources removes none and keeps the records of all other routines. -/
theorem bookkeeping (db : Database σ) :
    (∀ setting paths store s,
      Accounts db setting paths store s (loadSources db setting paths store s).1) ∧
    ∀ config listed files s report, (run db config listed files s).result = .ok report →
      ∃ setting prior paths t saved, setting.files = files ∧
        Store.load files config.loader.recordsPath = .ok prior ∧
        Store.load (run db config listed files s).files config.loader.recordsPath = .ok saved ∧
        report = { (loadSources db setting paths prior t).1.report with
          removed := report.removed } ∧
        (listed = [] → discover files config.loader = .ok paths ∧
          saved.names.Perm (report.loaded ++ report.unchanged) ∧
          report.removed.Pairwise (· < ·) ∧
          ∀ n, n ∈ report.removed ↔ n ∉ paths.map Path.stem ∧ n ∈ prior.names) ∧
        (listed ≠ [] → paths = listed ∧ report.removed = [] ∧
          ∀ n, n ∉ listed.map Path.stem → saved.get? n = prior.get? n) := by
  refine ⟨fun _ _ _ _ => accounts_loadSources, ?_⟩
  intro config listed files s report h
  obtain ⟨progress, s', hphase, rfl, hsaved⟩ := run_eq_ok h
  obtain ⟨setting, prior, paths, t, hfiles, hprior, hpaths, hprogress⟩ := loadPhase_eq_ok hphase
  have hbooks := @books_loadSources σ db setting paths prior t
  have haccounts := @accounts_loadSources σ db setting paths prior t
  have hpath := hbooks.path.trans (Store.path_of_load hprior)
  refine ⟨setting, prior, paths, t, progress.store, hfiles, hprior, ?_, ?_, ?_, ?_⟩
  · -- what has been saved are the records that the next run loads
    rw [← hpath]
    subst hprogress
    cases hlisted : listed.isEmpty with
    | true =>
      simp only [hlisted, if_true] at hsaved ⊢
      exact hsaved
    | false =>
      simp only [hlisted, Bool.false_eq_true, if_false] at hsaved ⊢
      exact hsaved
  · subst hprogress
    cases listed.isEmpty <;> rfl
  · rintro rfl
    obtain rfl := hprogress
    exact ⟨hpaths, haccounts.names_removeAbsent, haccounts.removed_removeAbsent⟩
  · intro hlisted
    -- a run on listed sources ends with what these sources have left
    have hempty : listed.isEmpty = false := by simpa using hlisted
    rw [hempty] at hpaths hprogress
    obtain rfl := Except.ok.inj hpaths
    obtain rfl := hprogress
    exact ⟨rfl, hbooks.removed, haccounts.others⟩

/-! ### A full run after a run on listed sources -/

/-- A source that declares the routine of a name. -/
def stockText (name : String) : String :=
  "create procedure " ++ name ++ "()\n-- type: none\nbegin\nend\n"

/-- Two sources that can be loaded and one that cannot, and one outside the source directory. -/
def stockFiles : FileTree :=
  (((FileTree.empty 2000).add ⟨"/psql/kept.psql"⟩ (stockText "kept").toUTF8 1000).add
    ⟨"/psql/deep/fresh.psql"⟩ (stockText "fresh").toUTF8 1000).add
      ⟨"/psql/broken.psql"⟩ "".toUTF8 1000 |>.add ⟨"/gone.psql"⟩ (stockText "gone").toUTF8 1000

/-- A run on two listed sources, one of which lies outside the source directory. -/
def stockRun : Run where
  config := sampleConfig []
  listed := [⟨"/psql/kept.psql"⟩, ⟨"/gone.psql"⟩]
  files := stockFiles
  database := InMemory.empty

/-- A second run, without a list, on what the first one has left. -/
def stockAgain : Run :=
  stockRun.next stockRun.config []

/-- The first run completes. -/
theorem stockRun_ending : (stockRun.ending? ⟨stockRun.recordsPath, .empty⟩).any
    (fun (result, _) => result.isOk) = true := by
  decide +kernel

/-- In the second run each of the four outcomes occurs. -/
theorem stockAgain_ending : (stockAgain.ending? ⟨stockAgain.recordsPath, stockRun.records⟩).any
    (fun (result, _) => result.toOption.any fun report => report.loaded == ["fresh"] &&
      report.unchanged == ["kept"] && report.failed.map (·.1) == ["broken"] &&
      report.removed == ["gone"]) = true := by
  decide +kernel

/-- The conditions can be met: a run on listed sources is followed by a full run in which each
    outcome occurs. -/
theorem bookkeeping_stock :
    (∃ report, (run inMemory stockRun.config stockRun.listed stockRun.files
        ⟨stockRun.database, []⟩).result = .ok report ∧ report.removed = []) ∧
    ∃ report, (run inMemory stockAgain.config [] stockAgain.files
        ⟨stockAgain.database, []⟩).result = .ok report ∧
      report.loaded = ["fresh"] ∧ report.unchanged = ["kept"] ∧
      report.failed.map (·.1) = ["broken"] ∧ report.removed = ["gone"] ∧
      ∃ prior saved, Store.load stockAgain.files ⟨"/routines.json"⟩ = .ok prior ∧
        Store.load stockAgain.outcome.files ⟨"/routines.json"⟩ = .ok saved ∧
        "gone" ∈ prior.names ∧ saved.names.Perm ["fresh", "kept"] := by
  obtain ⟨⟨result, d⟩, hending, hfirst⟩ := (Option.any_eq_true _ _).1 stockRun_ending
  obtain ⟨⟨result', d'⟩, hending', hsecond⟩ := (Option.any_eq_true _ _).1 stockAgain_ending
  simp only [Bool.and_eq_true, Option.any_eq_true, beq_iff_eq] at hsecond
  obtain ⟨report', hreport', ⟨⟨hloaded, hunchanged⟩, hfailed⟩, hremoved⟩ := hsecond
  obtain rfl := Run.ok_of_toOption hreport'
  cases result with
  | error e => cases hfirst
  | ok report =>
    have habsent : stockRun.files.doesExist stockRun.recordsPath = false := by decide +kernel
    obtain ⟨hresult, -⟩ := Run.outcome_of_ending? (Store.load_of_absent habsent) hending
    have hfollows : stockAgain.Follows stockRun := Run.next_follows _ rfl
    obtain ⟨hresult', -⟩ := hfollows.outcome_of_ending? ⟨_, hresult⟩ hending'
    obtain ⟨_, _, _, _, _, -, -, -, -, -, hlisted⟩ := (bookkeeping inMemory).2 _ _ _ _ _ hresult
    obtain ⟨_, prior, paths, _, saved, -, hprior, hsaved, -, hfull, -⟩ :=
      (bookkeeping inMemory).2 _ _ _ _ _ hresult'
    obtain ⟨-, hnames, -, hgone⟩ := hfull rfl
    refine ⟨⟨report, hresult, (hlisted (List.cons_ne_nil _ _)).2.1⟩, report', hresult', hloaded,
      hunchanged, hfailed, hremoved, prior, saved, hprior, hsaved, ?_, ?_⟩
    · have hmem := (hgone "gone").1 (by rw [hremoved]; exact List.mem_singleton_self _)
      exact hmem.2
    · rw [hloaded, hunchanged] at hnames
      exact hnames

end StoredRoutines
