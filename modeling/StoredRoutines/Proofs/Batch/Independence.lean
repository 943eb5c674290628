import StoredRoutines.Proofs.Batch.Bookkeeping
import StoredRoutines.Proofs.Load.Coupling

/-!
# Independence

The sources of a list share a session, a catalog and the temporary tables. Each of them fares as if
it were loaded alone all the same, provided that the sources are proper.

## Main definitions

- `SameFor` — two runs have done the same for a routine
- `Steady` — what a database is like between two loads

## Main results

- `loadPath_alike` — what one source does for its own routine and for the others
- `tour_frame`, `tour_same` — what the sources of a list do
- `loadSources_independent` — each routine fares as if its source were the only one
-/

namespace StoredRoutines

open InMemory (Alike Clean given)

/-- Two runs have done the same for a routine: it has the same outcome, with the same message if it
    has failed, the same record and the same place in the database. -/
structure SameFor (n : String) (a b : Progress × Session InMemory) : Prop where
  loaded : n ∈ a.1.report.loaded ↔ n ∈ b.1.report.loaded
  unchanged : n ∈ a.1.report.unchanged ↔ n ∈ b.1.report.unchanged
  failed : ∀ message, (n, message) ∈ a.1.report.failed ↔ (n, message) ∈ b.1.report.failed
  record : a.1.store.get? n = b.1.store.get? n
  routine : a.2.database.routines.get? n = b.2.database.routines.get? n

namespace SameFor

variable {n m : String} {a b c : Progress × Session InMemory} {p q : Progress}
  {s t s' t' : Session InMemory}

theorem refl (n : String) (a : Progress × Session InMemory) : SameFor n a a :=
  ⟨.rfl, .rfl, fun _ => .rfl, rfl, rfl⟩

theorem symm (h : SameFor n a b) : SameFor n b a :=
  ⟨h.loaded.symm, h.unchanged.symm, fun message => (h.failed message).symm, h.record.symm,
    h.routine.symm⟩

theorem trans (h : SameFor n a b) (h' : SameFor n b c) : SameFor n a c :=
  ⟨h.loaded.trans h'.loaded, h.unchanged.trans h'.unchanged,
    fun message => (h.failed message).trans (h'.failed message), h.record.trans h'.record,
    h.routine.trans h'.routine⟩

theorem addLoaded (h : SameFor n (p, s) (q, t)) {record : RoutineRecord} (hname : record.name = n)
    (hroutine : s'.database.routines.get? n = t'.database.routines.get? n) :
    SameFor n (p.addLoaded n record, s') (q.addLoaded n record, t') where
  loaded := by simp [Progress.addLoaded]
  unchanged := h.unchanged
  failed := h.failed
  record := by
    rw [Progress.get?_addLoaded, Progress.get?_addLoaded, if_pos hname.symm, if_pos hname.symm]
  routine := hroutine

theorem addUnchanged (h : SameFor n (p, s) (q, t))
    (hroutine : s'.database.routines.get? n = t'.database.routines.get? n) :
    SameFor n (p.addUnchanged n, s') (q.addUnchanged n, t') where
  loaded := h.loaded
  unchanged := by simp [Progress.addUnchanged]
  failed := h.failed
  record := h.record
  routine := hroutine

theorem addFailed (h : SameFor n (p, s) (q, t)) (message : String)
    (hroutine : s'.database.routines.get? n = t'.database.routines.get? n) :
    SameFor n (p.addFailed n message, s') (q.addFailed n message, t') where
  loaded := h.loaded
  unchanged := h.unchanged
  failed other := by
    simp only [Progress.addFailed, List.mem_append]
    exact or_congr_left (h.failed other)
  record := by rw [Progress.get?_addFailed, Progress.get?_addFailed, if_pos rfl, if_pos rfl]
  routine := hroutine

/-! What is noted about one routine is of no importance to another. -/

theorem of_addLoaded (hne : m ≠ n) {record : RoutineRecord} (hname : record.name = n)
    (hroutine : s'.database.routines.get? m = s.database.routines.get? m) :
    SameFor m (p.addLoaded n record, s') (p, s) where
  loaded := by simp [Progress.addLoaded, hne]
  unchanged := .rfl
  failed _ := .rfl
  record := by rw [Progress.get?_addLoaded, hname, if_neg hne]
  routine := hroutine

theorem of_addUnchanged (hne : m ≠ n)
    (hroutine : s'.database.routines.get? m = s.database.routines.get? m) :
    SameFor m (p.addUnchanged n, s') (p, s) where
  loaded := .rfl
  unchanged := by simp [Progress.addUnchanged, hne]
  failed _ := .rfl
  record := rfl
  routine := hroutine

theorem of_addFailed (hne : m ≠ n) (message : String)
    (hroutine : s'.database.routines.get? m = s.database.routines.get? m) :
    SameFor m (p.addFailed n message, s') (p, s) where
  loaded := .rfl
  unchanged := .rfl
  failed other := by simp [Progress.addFailed, hne]
  record := by rw [Progress.get?_addFailed, if_neg hne]
  routine := hroutine

end SameFor

/-! ### One source -/

/-- What a database that was `d₀` at the start is like between two loads. -/
structure Steady (d₀ d : InMemory) : Prop where
  given : d.given = d₀.given
  clean : Clean d.temporaryTables

/-- States that have left the same things alone are alike for a routine that they both hold. -/
theorem Steady.alike {d₀ d e : InMemory} (hd : Steady d₀ d) (he : Steady d₀ e) {n : String}
    (h : d.routines.get? n = e.routines.get? n) : Alike n d e d e where
  routine := h
  left _ _ := rfl
  right _ _ := rfl
  givenLeft := rfl
  givenRight := he.given.trans hd.given.symm
  temporary := hd.clean.trans he.clean.symm
  temporaryLeft := hd.clean

/-- Whether a source is proper depends on what no statement changes. -/
theorem Proper.of_steady {setting : RunSetting} {path : Path} {d₀ d : InMemory}
    (h : Proper setting d₀ path) (hd : Steady d₀ d) : Proper setting d path where
  keeps := h.keeps
  creates r hr table htable created hcreated := by
    have hsame : d.given.temporaryOnCall = d₀.given.temporaryOnCall := by rw [hd.given]
    change created ∈ d.given.temporaryOnCall.get? path.stem at hcreated
    rw [hsame] at hcreated
    exact h.creates r hr table htable created hcreated
  drops r hr table htable := by
    change d.given.rejection? _ = none
    rw [hd.given]
    exact h.drops r hr table htable

/-- Whether and how a source is loaded depends on the record of its own routine only. -/
theorem loadSource_congr {σ : Type} (db : Database σ) (setting : RunSetting) {path : Path}
    {store store' : Store} (h : store.get? path.stem = store'.get? path.stem) :
    loadSource db setting store path = loadSource db setting store' path := by
  unfold loadSource
  rw [h]

section

variable {setting : RunSetting} {d₀ : InMemory}

/-- Where two runs have done the same for a routine, its source makes them do the same again. It
    leaves the database as it is between two loads, and all other routines alone. -/
theorem loadPath_alike {path : Path} (hproper : Proper setting d₀ path) {p q : Progress}
    {s t : Session InMemory} (hs : Steady d₀ s.database) (ht : Steady d₀ t.database)
    (hsame : SameFor path.stem (p, s) (q, t)) :
    SameFor path.stem (loadPath inMemory setting p s path) (loadPath inMemory setting q t path) ∧
      Steady d₀ (loadPath inMemory setting p s path).2.database ∧
      ∀ m, m ≠ path.stem → SameFor m (loadPath inMemory setting p s path) (p, s) := by
  have halike := hs.alike ht hsame.routine
  have hstore : p.store.get? path.stem = q.store.get? path.stem := hsame.record
  have hsource := loadSource_congr inMemory setting hstore
  -- the two loads end alike: with a record, without one, or with the same error
  rcases InMemory.coupled_loadSource (hproper.of_steady hs) p.store s t halike with
    ⟨outcome, s', t', hleft, hright, h⟩ | ⟨e, s', t', hleft, hright, h⟩
  · have hsteady : Steady d₀ s'.database := ⟨h.givenLeft.trans hs.given, h.temporaryLeft⟩
    rw [hsource] at hright
    rcases loadSource_eq_ok hleft with ⟨rfl, -⟩ | ⟨record, rfl, hname, -⟩
    · rw [loadPath_of_none hleft, loadPath_of_none hright]
      exact ⟨hsame.addUnchanged h.routine, hsteady, fun m hm => .of_addUnchanged hm (h.left m hm)⟩
    · rw [loadPath_of_some hleft, loadPath_of_some hright]
      exact ⟨hsame.addLoaded hname h.routine, hsteady,
        fun m hm => .of_addLoaded hm hname (h.left m hm)⟩
  · have hsteady : Steady d₀ s'.database := ⟨h.givenLeft.trans hs.given, h.temporaryLeft⟩
    rw [hsource] at hright
    rw [loadPath_of_error hleft, loadPath_of_error hright]
    exact ⟨hsame.addFailed e.message h.routine, hsteady,
      fun m hm => .of_addFailed hm e.message (h.left m hm)⟩

/-! ### The sources of a list -/

variable {paths : List Path} {start : Progress × Session InMemory}

/-- Proper sources change nothing but the outcomes, the records and the routines of their own
    names. -/
theorem tour_frame (hproper : ∀ path ∈ paths, Proper setting d₀ path)
    (hstart : Steady d₀ start.2.database) :
    Steady d₀ (tour setting start paths).2.database ∧
      ∀ n, n ∉ paths.map Path.stem → SameFor n (tour setting start paths) start := by
  induction paths generalizing start with
  | nil => exact ⟨hstart, fun n _ => .refl n start⟩
  | cons path paths ih =>
    obtain ⟨hpath, hrest⟩ := List.forall_mem_cons.1 hproper
    obtain ⟨-, hafter, hfirst⟩ := loadPath_alike hpath hstart hstart (.refl _ start)
    obtain ⟨hsteady, hframe⟩ := ih hrest hafter
    rw [tour_cons]
    refine ⟨hsteady, fun n hn => ?_⟩
    rw [List.map_cons, List.mem_cons, not_or] at hn
    exact (hframe n hn.2).trans (hfirst n hn.1)

/-- A source of a list without duplicates fares as it does at the start. -/
theorem tour_same (hproper : ∀ path ∈ paths, Proper setting d₀ path)
    (hstart : Steady d₀ start.2.database) (hstems : (paths.map Path.stem).Nodup) {path : Path}
    (hpath : path ∈ paths) :
    SameFor path.stem (tour setting start paths) (tour setting start [path]) := by
  obtain ⟨before, source, after, rfl, hstem, hbefore, hafter⟩ :=
    split_at_stem hstems (List.mem_map_of_mem hpath)
  obtain rfl : source = path :=
    List.inj_on_of_nodup_map hstems (List.mem_append_right _ List.mem_cons_self) hpath hstem
  obtain ⟨hbeforeProper, hrest⟩ := List.forall_mem_append.1 hproper
  obtain ⟨hsourceProper, hafterProper⟩ := List.forall_mem_cons.1 hrest
  -- the sources before it leave its routine alone, so it starts from where it would start alone
  obtain ⟨hsteady, hframe⟩ := tour_frame hbeforeProper hstart
  obtain ⟨hsource, hsteady', -⟩ := loadPath_alike hsourceProper hsteady hstart
    (hframe source.stem hbefore)
  -- and so do the sources after it
  obtain ⟨-, hframe'⟩ := tour_frame hafterProper hsteady'
  rw [tour_append, tour_cons]
  exact (hframe' source.stem hafter).trans hsource

/-- If no routine has two sources, all sources are visited in order. -/
theorem loadSources_of_nodup (setting : RunSetting) (hstems : (paths.map Path.stem).Nodup)
    (store : Store) (s : Session InMemory) :
    loadSources inMemory setting paths store s = tour setting (⟨store, .empty⟩, s) paths := by
  have hnone : duplicates paths = [] := by
    refine List.eq_nil_iff_forall_not_mem.2 fun d hd => ?_
    have hmany := mem_duplicates.1 (List.mem_map_of_mem hd)
    have honce := List.nodup_iff_count_le_one.1 hstems d.1
    omega
  have hvisited : visited paths = paths :=
    List.filter_eq_self.2 fun p _ => by rw [hnone]; rfl
  rw [loadSources_eq, hvisited, noted, hnone]
  rfl

/-- Each routine fares as if its source were the only one, and in whatever order the sources come.
    There are no links in a file tree, so a path leads to a file of its own stem, and sources of
    different routines are different files. -/
theorem loadSources_independent {store : Store} {s : Session InMemory}
    (hstems : (paths.map Path.stem).Nodup) (htemporary : s.database.temporaryTables = .empty)
    (hproper : ∀ path ∈ paths, Proper setting s.database path) :
    (∀ path ∈ paths, SameFor path.stem (loadSources inMemory setting paths store s)
      (loadSources inMemory setting [path] store s)) ∧
    ∀ paths', paths'.Perm paths → ∀ n, SameFor n (loadSources inMemory setting paths' store s)
      (loadSources inMemory setting paths store s) := by
  have hstart : Steady s.database s.database := ⟨rfl, htemporary⟩
  refine ⟨fun path hpath => ?_, fun paths' hperm n => ?_⟩
  · have hone : ([path].map Path.stem).Nodup := List.nodup_singleton path.stem
    rw [loadSources_of_nodup setting hstems, loadSources_of_nodup setting hone]
    exact tour_same hproper hstart hstems hpath
  · have hmem : ∀ path, path ∈ paths' ↔ path ∈ paths := fun _ => hperm.mem_iff
    have hstems' : (paths'.map Path.stem).Nodup := (hperm.map _).nodup_iff.2 hstems
    have hproper' : ∀ path ∈ paths', Proper setting s.database path :=
      fun path hp => hproper path ((hmem path).1 hp)
    rw [loadSources_of_nodup setting hstems, loadSources_of_nodup setting hstems']
    by_cases hn : n ∈ paths.map Path.stem
    · obtain ⟨path, hpath, rfl⟩ := List.mem_map.1 hn
      exact (tour_same hproper' hstart hstems' ((hmem path).2 hpath)).trans
        (tour_same hproper hstart hstems hpath).symm
    · have hn' : n ∉ paths'.map Path.stem := fun h => hn ((hperm.map _).mem_iff.1 h)
      exact ((tour_frame hproper' hstart).2 n hn').trans
        ((tour_frame hproper hstart).2 n hn).symm

end

/-! ### A routine that fails between two others -/

/-- A source that fills a temporary table of its own, one that the database refuses, and one with a
    placeholder. -/
def intakeFiles : FileTree :=
  (((FileTree.empty 2000).add ⟨"/psql/intake.psql"⟩
    "create procedure intake()\n-- type: bulk_insert parcels weight\nbegin\nend\n".toUTF8 1000).add
    ⟨"/psql/refused.psql"⟩
    "create procedure refused()\n-- type: none\nbegin\nselect missing;\nend\n".toUTF8 1000).add
    ⟨"/psql/summary.psql"⟩
    "create procedure summary()\n-- type: none\nbegin\nselect @TOTAL@;\nend\n".toUTF8 1000

/-- The three sources in order. -/
def intakePaths : List Path :=
  [⟨"/psql/intake.psql"⟩, ⟨"/psql/refused.psql"⟩, ⟨"/psql/summary.psql"⟩]

/-- A run that knows the placeholder. -/
def intakeSetting : RunSetting :=
  ⟨intakeFiles, .ofList [("@TOTAL@", "1")], ⟨"ANSI", "utf8mb4", "utf8mb4_bin"⟩⟩

/-- A call of the first routine creates its table, and statements about what is missing are
    refused. -/
def intakeStart : Session InMemory :=
  ⟨{ InMemory.empty with
      temporaryOnCall := .ofList [("intake", "parcels", [⟨"weight", "int"⟩])]
      failing := ["missing"] }, []⟩

/-- A store without records. -/
def intakeStore : Store := ⟨⟨"/routines.json"⟩, .empty⟩

/-- The sources of the example are proper. -/
theorem intake_proper : ∀ path ∈ intakePaths, Proper intakeSetting intakeStart.database path := by
  decide +kernel

/-- Two of the routines are loaded, and one is refused. -/
theorem intake_outcomes :
    outcomeNames (loadSources inMemory intakeSetting intakePaths intakeStore intakeStart) =
      (["intake", "summary"], ["refused"]) := by
  decide +kernel

/-- The conditions can be met, by sources of which one creates a temporary table and one fails. -/
theorem loadSources_independent_intake :
    outcomeNames (loadSources inMemory intakeSetting intakePaths intakeStore intakeStart) =
        (["intake", "summary"], ["refused"]) ∧
      ∀ path ∈ intakePaths, SameFor path.stem
        (loadSources inMemory intakeSetting intakePaths.reverse intakeStore intakeStart)
        (loadSources inMemory intakeSetting [path] intakeStore intakeStart) := by
  have hstems : (intakePaths.map Path.stem).Nodup := by decide +kernel
  obtain ⟨hsame, horder⟩ := @loadSources_independent intakeSetting intakePaths intakeStore
    intakeStart hstems rfl intake_proper
  refine ⟨intake_outcomes, fun path hpath => ?_⟩
  exact (horder _ (List.reverse_perm _) path.stem).trans (hsame path hpath)

end StoredRoutines
