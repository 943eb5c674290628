import StoredRoutines.Proofs.Batch.Independence

/-!
# Naming a source again

Sources are counted as often as they are listed. A file that is listed twice therefore counts as two
sources of its routine, which is not loaded and loses its record, whatever the file holds.

## Main definitions

- `SameOutcome`, `SameEnd` — two runs report alike and leave the same behind

## Main results

- `loadPath_noted`, `loadAll_noted` — it makes no difference to the other sources when a failure is
  noted
- `loadSources_repeated` — a routine with more than one source is left out and noted
- `loadSources_append` — what naming a source again does, and when it does nothing
-/

namespace StoredRoutines

variable {σ : Type} {db : Database σ} {setting : RunSetting}

/-! ### Comparing runs -/

/-- Two runs report alike on a routine, and hold the same record of it. -/
structure SameOutcome (n : String) (p q : Progress) : Prop where
  loaded : n ∈ p.report.loaded ↔ n ∈ q.report.loaded
  unchanged : n ∈ p.report.unchanged ↔ n ∈ q.report.unchanged
  failed : n ∈ p.report.failed.map (·.1) ↔ n ∈ q.report.failed.map (·.1)
  record : p.store.get? n = q.store.get? n

/-- Two runs leave the same records and the same database, and report the same routines as loaded,
    as unchanged and as failed. -/
structure SameEnd (a b : Progress × Session σ) : Prop where
  store : a.1.store = b.1.store
  database : a.2.database = b.2.database
  outcome : ∀ n, SameOutcome n a.1 b.1

namespace SameOutcome

variable {n m : String} {p q r : Progress}

theorem symm (h : SameOutcome n p q) : SameOutcome n q p :=
  ⟨h.loaded.symm, h.unchanged.symm, h.failed.symm, h.record.symm⟩

theorem trans (h : SameOutcome n p q) (h' : SameOutcome n q r) : SameOutcome n p r :=
  ⟨h.loaded.trans h'.loaded, h.unchanged.trans h'.unchanged, h.failed.trans h'.failed,
    h.record.trans h'.record⟩

theorem addLoaded (h : SameOutcome n p q) (m : String) (record : RoutineRecord) :
    SameOutcome n (p.addLoaded m record) (q.addLoaded m record) where
  loaded := by simp [Progress.addLoaded, h.loaded]
  unchanged := h.unchanged
  failed := h.failed
  record := by rw [Progress.get?_addLoaded, Progress.get?_addLoaded, h.record]

theorem addUnchanged (h : SameOutcome n p q) (m : String) :
    SameOutcome n (p.addUnchanged m) (q.addUnchanged m) where
  loaded := h.loaded
  unchanged := by simp [Progress.addUnchanged, h.unchanged]
  failed := h.failed
  record := h.record

theorem addFailed (h : SameOutcome n p q) (m message message' : String) :
    SameOutcome n (p.addFailed m message) (q.addFailed m message') where
  loaded := h.loaded
  unchanged := h.unchanged
  failed := by
    simp only [Progress.addFailed, List.map_append, List.mem_append]
    exact or_congr_left h.failed
  record := by rw [Progress.get?_addFailed, Progress.get?_addFailed, h.record]

/-- A failure is of no importance to other routines. -/
theorem of_addFailed (hne : n ≠ m) (message : String) :
    SameOutcome n (p.addFailed m message) p where
  loaded := .rfl
  unchanged := .rfl
  failed := by simp [Progress.addFailed, hne]
  record := by rw [Progress.get?_addFailed, if_neg hne]

/-! A failure and what is noted about another routine may change places. -/

theorem addLoaded_addFailed {record : RoutineRecord} (hne : record.name ≠ m)
    (name message : String) :
    SameOutcome n ((p.addFailed m message).addLoaded name record)
      ((p.addLoaded name record).addFailed m message) where
  loaded := .rfl
  unchanged := .rfl
  failed := .rfl
  record := by
    simp only [Progress.get?_addLoaded, Progress.get?_addFailed]
    by_cases hn : n = record.name
    · rw [if_pos hn, if_neg (hn ▸ hne), if_pos hn]
    · rw [if_neg hn, if_neg hn]

theorem addUnchanged_addFailed (name message : String) :
    SameOutcome n ((p.addFailed m message).addUnchanged name)
      ((p.addUnchanged name).addFailed m message) :=
  ⟨.rfl, .rfl, .rfl, rfl⟩

theorem addFailed_addFailed (name message message' : String) :
    SameOutcome n ((p.addFailed m message).addFailed name message')
      ((p.addFailed name message').addFailed m message) where
  loaded := .rfl
  unchanged := .rfl
  failed := by
    simp only [Progress.addFailed, List.map_append, List.mem_append, or_assoc]
    exact or_congr_right Or.comm
  record := by
    simp only [Progress.get?_addFailed]
    by_cases hn : n = name
    · rw [if_pos hn, if_pos hn, ite_self]
    · rw [if_neg hn, if_neg hn]

end SameOutcome

namespace SameEnd

variable {a b c : Progress × Session σ}

theorem symm (h : SameEnd a b) : SameEnd b a :=
  ⟨h.store.symm, h.database.symm, fun n => (h.outcome n).symm⟩

theorem trans (h : SameEnd a b) (h' : SameEnd b c) : SameEnd a c :=
  ⟨h.store.trans h'.store, h.database.trans h'.database,
    fun n => (h.outcome n).trans (h'.outcome n)⟩

/-- The records are the same if each routine has the same one. -/
theorem of_outcome (hpath : a.1.store.path = b.1.store.path)
    (hdatabase : a.2.database = b.2.database) (h : ∀ n, SameOutcome n a.1 b.1) : SameEnd a b := by
  refine ⟨?_, hdatabase, h⟩
  have hrecords : a.1.store.records = b.1.store.records :=
    SortedMap.ext_get? fun n => (h n).record
  cases hs : a.1.store
  cases ht : b.1.store
  simp only [hs, ht] at hpath hrecords
  rw [hpath, hrecords]

end SameEnd

/-! ### Noting a failure earlier or later -/

variable {n : String} {sources : List Path} {a b : Progress × Session σ}

/-- A source of another routine fares alike before and after a failure is noted. -/
theorem loadPath_noted {path : Path} (hne : path.stem ≠ n)
    (h : SameEnd a (noteDuplicate b.1 b.2 n sources)) :
    SameEnd (loadPath db setting a.1 a.2 path)
      (noteDuplicate (loadPath db setting b.1 b.2 path).1 (loadPath db setting b.1 b.2 path).2 n
        sources) := by
  have hrecord : a.1.store.get? path.stem = b.1.store.get? path.stem :=
    ((h.outcome path.stem).trans (.of_addFailed hne _)).record
  have hsource := loadSource_congr db setting hrecord
  have hpath : a.1.store.path = b.1.store.path := by
    rw [h.store]
    rfl
  -- the load depends on the record of its own routine and the database, which are the same
  rcases Loading.coupled_eq_loadSource db setting b.1.store path a.2 b.2 h.database with
    ⟨outcome, s, t, hleft, hright, hst⟩ | ⟨e, s, t, hleft, hright, hst⟩
  · rw [← hsource] at hleft
    rcases loadSource_eq_ok hright with ⟨rfl, -⟩ | ⟨record, rfl, hname, -⟩
    · rw [loadPath_of_none hleft, loadPath_of_none hright]
      exact .of_outcome hpath hst fun m =>
        ((h.outcome m).addUnchanged path.stem).trans (.addUnchanged_addFailed _ _)
    · rw [loadPath_of_some hleft, loadPath_of_some hright]
      exact .of_outcome hpath hst fun m =>
        ((h.outcome m).addLoaded path.stem record).trans (.addLoaded_addFailed (hname ▸ hne) _ _)
  · rw [← hsource] at hleft
    rw [loadPath_of_error hleft, loadPath_of_error hright]
    exact .of_outcome hpath hst fun m =>
      ((h.outcome m).addFailed path.stem _ _).trans (.addFailed_addFailed _ _ _)

/-- The sources of other routines fare alike before and after a failure is noted. -/
theorem loadAll_noted {paths : List Path} (hn : n ∉ paths.map Path.stem)
    (h : SameEnd a (noteDuplicate b.1 b.2 n sources)) :
    SameEnd (loadAll db setting a paths)
      (noteDuplicate (loadAll db setting b paths).1 (loadAll db setting b paths).2 n sources) := by
  induction paths generalizing a b with
  | nil => exact h
  | cons path paths ih =>
    rw [List.map_cons, List.mem_cons, not_or] at hn
    exact ih hn.2 (loadPath_noted (Ne.symm hn.1) h)

/-! ### Leaving a routine out -/

/-- The sources of a list without those of a routine. -/
def without (n : String) (paths : List Path) : List Path :=
  paths.filter fun p => p.stem != n

variable {paths : List Path} {store : Store} {s : Session σ}

theorem mem_stems_without {m : String} :
    m ∈ (without n paths).map Path.stem ↔ m ≠ n ∧ m ∈ paths.map Path.stem := by
  simp only [without, List.mem_map, List.mem_filter, bne_iff_ne]
  constructor
  · rintro ⟨p, ⟨hp, hne⟩, rfl⟩
    exact ⟨hne, p, hp, rfl⟩
  · rintro ⟨hne, p, hp, rfl⟩
    exact ⟨p, ⟨hp, hne⟩, rfl⟩

theorem count_without {m : String} (hm : m ≠ n) :
    ((without n paths).map Path.stem).count m = (paths.map Path.stem).count m := by
  rw [← length_sources, ← length_sources, without, List.filter_filter]
  refine congrArg List.length (List.filter_congr fun p _ => ?_)
  by_cases hp : p.stem = m
  · simp [hp, hm]
  · simp [hp]

/-- With more than one source a routine is not visited, so nothing changes for the visits when it is
    left out. -/
theorem visited_without (hn : 1 < (paths.map Path.stem).count n) :
    visited (without n paths) = visited paths := by
  rw [visited, visited, without, List.filter_filter]
  refine List.filter_congr fun p _ => ?_
  have hcontains : ∀ {ps : List Path}, ((duplicates ps).map (·.1)).contains p.stem =
      decide (1 < (ps.map Path.stem).count p.stem) := fun {ps} => by
    rw [Bool.eq_iff_iff, List.contains_iff_mem, mem_duplicates, decide_eq_true_iff]
  rw [hcontains, hcontains]
  by_cases hp : p.stem = n
  · simp [hp, hn]
  · have hcount : ((paths.filter fun p => p.stem != n).map Path.stem).count p.stem =
        (paths.map Path.stem).count p.stem := count_without hp
    simp [hcount, hp]

/-- The duplicates are the routine itself and those among the other sources. -/
theorem noteAll_without (hn : 1 < (paths.map Path.stem).count n) (sources : List Path) :
    SameEnd (noteAll paths store s)
      (noteDuplicate (noteAll (without n paths) store s).1 (noteAll (without n paths) store s).2 n
        sources) := by
  obtain ⟨hdatabase, hloaded, hunchanged, hpath, hrecord⟩ :=
    noteDuplicates_eq (duplicates paths) (⟨store, .empty⟩, s)
  obtain ⟨hdatabase', hloaded', hunchanged', hpath', hrecord'⟩ :=
    noteDuplicates_eq (duplicates (without n paths)) (⟨store, .empty⟩, s)
  -- leaving the routine out leaves out one duplicate and no other
  have hmem : ∀ m, m ∈ (duplicates paths).map (·.1) ↔
      m ∈ (duplicates (without n paths)).map (·.1) ∨ m = n := by
    intro m
    rw [mem_duplicates, mem_duplicates]
    by_cases hm : m = n
    · simp [hm, hn]
    · simp [hm, count_without hm]
  have hnames : ∀ ps : List Path, (noteAll ps store s).1.report.failed.map (·.1) =
      (duplicates ps).map (·.1) := fun ps => by
    rw [failed_noteAll, List.map_map]
    rfl
  refine .of_outcome (hpath.trans hpath'.symm) (hdatabase.trans hdatabase'.symm)
    fun m => ⟨?_, ?_, ?_, ?_⟩
  · exact iff_of_eq (congrArg (m ∈ ·) (hloaded.trans hloaded'.symm))
  · exact iff_of_eq (congrArg (m ∈ ·) (hunchanged.trans hunchanged'.symm))
  · rw [hnames, hmem, noteDuplicate, Progress.addFailed, List.map_append, List.mem_append, hnames]
    simp
  · refine (hrecord m).trans (Eq.trans ?_ (Progress.get?_addFailed _ _ _ _).symm)
    rw [noteAll, hrecord' m]
    by_cases hm : m = n
    · rw [if_pos ((hmem m).2 (.inr hm)), if_pos hm]
    · rw [if_neg hm]
      by_cases hd : m ∈ (duplicates (without n paths)).map (·.1)
      · rw [if_pos ((hmem m).2 (.inl hd)), if_pos hd]
      · rw [if_neg fun h => ((hmem m).1 h).elim hd hm, if_neg hd]

/-- A routine with more than one source is left out and noted. -/
theorem loadSources_repeated (hn : 1 < (paths.map Path.stem).count n) (sources : List Path) :
    SameEnd (loadSources db setting paths store s)
      (noteDuplicate (loadSources db setting (without n paths) store s).1
        (loadSources db setting (without n paths) store s).2 n sources) := by
  rw [loadSources_eq_loadAll, loadSources_eq_loadAll, visited_without hn]
  refine loadAll_noted (fun hmem => ?_) (noteAll_without hn sources)
  obtain ⟨p, hp, rfl⟩ := List.mem_map.1 hmem
  have hcount := (mem_visited.1 hp).2
  omega

/-- A routine that fails is neither loaded nor unchanged. -/
theorem Accounts.notMem_of_failed {p : Progress} (h : Accounts db setting paths store s p)
    (hn : n ∈ p.report.failed.map (·.1)) : n ∉ p.report.loaded ∧ n ∉ p.report.unchanged := by
  obtain ⟨-, -, hdisjoint⟩ := List.nodup_append.1 h.nodup
  exact ⟨fun hmem => hdisjoint n (List.mem_append_left _ hmem) n hn rfl,
    fun hmem => hdisjoint n (List.mem_append_right _ hmem) n hn rfl⟩

/-- A routine without a source is neither loaded nor skipped. -/
theorem Accounts.notMem_of_notMem {p : Progress} (h : Accounts db setting paths store s p)
    (hn : n ∉ paths.map Path.stem) : n ∉ p.report.loaded ∧ n ∉ p.report.unchanged := by
  rw [← h.mem_iff, List.mem_append, List.mem_append, not_or, not_or] at hn
  exact hn.1

/-- A run ends as if the sources of a routine had been left out and a failure noted, exactly if the
    routine fails and its sources do nothing else. -/
theorem sameEnd_noted_iff (sources : List Path) :
    SameEnd (loadSources db setting paths store s)
        (noteDuplicate (loadSources db setting (without n paths) store s).1
          (loadSources db setting (without n paths) store s).2 n sources) ↔
      n ∈ (loadSources db setting paths store s).1.report.failed.map (·.1) ∧
        (loadSources db setting paths store s).2.database =
          (loadSources db setting (without n paths) store s).2.database ∧
        ∀ m, m ≠ n → SameOutcome m (loadSources db setting paths store s).1
          (loadSources db setting (without n paths) store s).1 := by
  have hbooks := @books_loadSources σ db setting paths store s
  have hbooks' := @books_loadSources σ db setting (without n paths) store s
  have haccounts := @accounts_loadSources σ db setting paths store s
  have haccounts' := @accounts_loadSources σ db setting (without n paths) store s
  have hout : n ∉ (without n paths).map Path.stem := fun hmem => (mem_stems_without.1 hmem).1 rfl
  have hnoted : ∀ p : Progress, n ∈ (p.addFailed n (duplicateMessage n sources)).report.failed.map
      (·.1) := fun p => by simp [Progress.addFailed]
  constructor
  · intro h
    refine ⟨(h.outcome n).failed.2 (hnoted _), h.database, fun m hm => ?_⟩
    exact (h.outcome m).trans (.of_addFailed hm _)
  · rintro ⟨hfailed, hdatabase, hothers⟩
    refine .of_outcome (hbooks.path.trans hbooks'.path.symm) hdatabase fun m => ?_
    by_cases hm : m = n
    · -- neither list of sources gives the routine another outcome, and a failure has no record
      subst hm
      obtain ⟨hloaded, hunchanged⟩ := haccounts.notMem_of_failed hfailed
      obtain ⟨hloaded', hunchanged'⟩ := haccounts'.notMem_of_notMem hout
      refine ⟨iff_of_false hloaded hloaded', iff_of_false hunchanged hunchanged',
        iff_of_true hfailed (hnoted _), ?_⟩
      rw [haccounts.failed m hfailed]
      exact (Progress.get?_addFailed _ _ _ _ |>.trans (if_pos rfl)).symm
    · exact (hothers m hm).trans (SameOutcome.of_addFailed hm _).symm

/-- A source that is named again counts as another one: its routine is left out, and reported with
    all the paths. This changes nothing exactly if the routine fails anyway, and if nothing else
    comes of its source. -/
theorem loadSources_append {p : Path} (hp : p ∈ paths) :
    let once := loadSources db setting paths store s
    let twice := loadSources db setting (paths ++ [p]) store s
    let others := loadSources db setting (without p.stem paths) store s
    let sources := (paths ++ [p]).filter fun q => q.stem == p.stem
    (p.stem, duplicateMessage p.stem sources) ∈ twice.1.report.failed ∧
      SameEnd twice (noteDuplicate others.1 others.2 p.stem sources) ∧
      (SameEnd twice once ↔
        p.stem ∈ once.1.report.failed.map (·.1) ∧ once.2.database = others.2.database ∧
          ∀ n, n ≠ p.stem → SameOutcome n once.1 others.1) := by
  intro once twice others sources
  -- the repeated source makes two of its routine, whatever else is listed
  have hcount : 1 < ((paths ++ [p]).map Path.stem).count p.stem := by
    have hpos : 0 < (paths.map Path.stem).count p.stem :=
      List.count_pos_iff.2 (List.mem_map_of_mem hp)
    rw [List.map_append, List.count_append, List.map_singleton, List.count_singleton_self]
    omega
  have hothers : without p.stem (paths ++ [p]) = without p.stem paths := by
    simp [without]
  have htwice : SameEnd twice (noteDuplicate others.1 others.2 p.stem sources) := by
    have hrepeated := @loadSources_repeated σ db setting p.stem _ store s hcount sources
    rwa [hothers] at hrepeated
  refine ⟨mem_failed_of_repeated hcount, htwice, ?_⟩
  rw [← sameEnd_noted_iff sources]
  exact ⟨fun h => h.symm.trans htwice, fun h => htwice.trans h.symm⟩

/-! ### A source that is listed twice -/

/-- A tree with two sources. -/
def postFiles : FileTree :=
  ((FileTree.empty 2000).add ⟨"/psql/post.psql"⟩
    "create procedure post()\n-- type: none\nbegin\nend\n".toUTF8 1000).add
    ⟨"/psql/stamp.psql"⟩
    "create procedure stamp()\n-- type: none\nbegin\nend\n".toUTF8 1000

/-- The source that is listed twice. -/
def postPath : Path := ⟨"/psql/post.psql"⟩

/-- The list in which each source occurs once. -/
def postPaths : List Path := [postPath, ⟨"/psql/stamp.psql"⟩]

/-- The run on a list of these paths, with neither records nor routines at the start. -/
def postRun (paths : List Path) : Progress × Session InMemory :=
  loadSources inMemory ⟨postFiles, .empty, ⟨"ANSI", "utf8mb4", "utf8mb4_bin"⟩⟩ paths
    ⟨⟨"/routines.json"⟩, .empty⟩ ⟨InMemory.empty, []⟩

/-- Both routines are loaded when their sources are listed once. -/
theorem post_loaded : outcomeNames (postRun postPaths) = (["post", "stamp"], []) := by
  decide +kernel

/-- The condition can be met, and the two runs may end differently. -/
theorem loadSources_append_post :
    postPath ∈ postPaths ∧
      (postPath.stem, duplicateMessage postPath.stem [postPath, postPath]) ∈
        (postRun (postPaths ++ [postPath])).1.report.failed ∧
      ¬ SameEnd (postRun (postPaths ++ [postPath])) (postRun postPaths) := by
  have hmem : postPath ∈ postPaths := List.mem_cons_self
  obtain ⟨hreported, -, hsame⟩ := loadSources_append hmem
  refine ⟨hmem, hreported, fun h => ?_⟩
  have hfailed : postPath.stem ∈ (outcomeNames (postRun postPaths)).2 := (hsame.1 h).1
  rw [post_loaded] at hfailed
  cases hfailed

/-- One file is reported as more than one source, and its routine is missing. -/
theorem listed_twice :
    (postRun postPaths).2.database.routines.contains "post" = true ∧
      (postRun (postPaths ++ [postPath])).2.database.routines.contains "post" = false ∧
      (postRun (postPaths ++ [postPath])).1.report.loaded = ["stamp"] ∧
      (postRun (postPaths ++ [postPath])).1.report.failed = [("post",
        "Stored routine 'post' is defined by more than one source: " ++
          "/psql/post.psql, /psql/post.psql")] := by
  decide +kernel

end StoredRoutines
