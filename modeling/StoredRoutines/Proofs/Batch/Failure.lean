import StoredRoutines.Proofs.Batch.Bookkeeping
import StoredRoutines.Proofs.Load.Failure
import StoredRoutines.Proofs.Store.Persistence

/-!
# Runs that fail

A run that ends without a report leaves the file of the records as it was. Unless it has come to
save them, it leaves all files, and the database has been asked for the SQL mode at most.

## Main definitions

- `RunError.isOfSaving` — the errors of the last step of a run

## Main results

- `run_cases` — the ways in which a run ends
- `named_run` — the names in the tree after a run
- `loadPhase_eq_error` — what has been done when a run fails before its records are saved
- `Run.records_kept_or_saved` — what a run that fails leaves, and what one that succeeds has
  written
-/

namespace StoredRoutines

/-- Whether an error tells that the records could not be saved. -/
def RunError.isOfSaving : RunError → Bool
  | store (.directoryNotMade _) => true
  | store (.notWritten _) => true
  | store (.notReplaced _) => true
  | _ => false

/-- A save that fails gives one of the errors of saving. -/
theorem Store.isOfSaving_of_save {s : Store} {t u : FileTree} {e : StoreError}
    (h : s.save t = (.error e, u)) : (RunError.store e).isOfSaving = true := by
  rcases steps_of_failed_save h with ⟨parent, rfl, -⟩ | ⟨rfl, -⟩ | ⟨rfl, -⟩ <;> rfl

section

variable {σ : Type} {db : Database σ} {config : Config} {listed : List Path} {files : FileTree}
  {s s' : Session σ}

/-- A run fails before its records are saved, or it fails to save them, or it saves them. -/
theorem run_cases (db : Database σ) (config : Config) (listed : List Path) (files : FileTree)
    (s : Session σ) :
    (∃ e s', loadPhase db config listed files s = .error e s' ∧
      run db config listed files s = ⟨.error e, s', files⟩) ∨
    ∃ progress s', loadPhase db config listed files s = .ok progress s' ∧
      ((∃ e saved, progress.store.save files = (.error e, saved) ∧
        run db config listed files s = ⟨.error (.store e), s', saved⟩) ∨
      ∃ saved, progress.store.save files = (.ok (), saved) ∧
        run db config listed files s = ⟨.ok progress.report, s', saved⟩) := by
  unfold run
  cases hphase : loadPhase db config listed files s with
  | error e s' => exact .inl ⟨e, s', rfl, rfl⟩
  | ok progress s' =>
    refine .inr ⟨progress, s', rfl, ?_⟩
    rcases hsave : progress.store.save files with ⟨e | u, saved⟩
    · exact .inl ⟨e, saved, rfl, by simp only [hsave]⟩
    · exact .inr ⟨saved, rfl, by simp only [hsave]⟩

/-- Whatever lies in the tree after a run still has a name, however the run ends. So the next run
    can search the tree again. -/
theorem named_run (hnamed : files.Named) : (run db config listed files s).files.Named := by
  rcases run_cases db config listed files s with ⟨e, s', -, hrun⟩ | ⟨progress, s', -, hend⟩
  · rw [hrun]
    exact hnamed
  · have hsaved := Store.named_save hnamed progress.store
    -- the files are those that the save has left, whether it has succeeded or not
    rcases hend with ⟨e, saved, hsave, hrun⟩ | ⟨saved, hsave, hrun⟩
    all_goals
      rw [hsave] at hsaved
      rw [hrun]
      exact hsaved

/-- The records are saved where they have been read. -/
theorem path_of_loadPhase {progress : Progress}
    (h : loadPhase db config listed files s = .ok progress s') :
    progress.store.path = config.loader.recordsPath := by
  obtain ⟨setting, prior, paths, t, -, hprior, -, rfl⟩ := loadPhase_eq_ok h
  have hbooks := @books_loadSources σ db setting paths prior t
  have hpath := hbooks.path.trans (Store.path_of_load hprior)
  cases listed.isEmpty with
  | true => exact hpath
  | false => exact hpath

open Loading in
/-- What a run does before it fails to get to its sources stays within what reading the schema and
    finding out the SQL mode stay within. -/
theorem loadPhase_eq_error {F : Frame σ} (htable : Within F (placeholderTable db config))
    (hsession : Within F (canonicalSession db config.loader.session)) {e : RunError}
    (h : loadPhase db config listed files s = .error e s') :
    F.rel s.database s'.database := by
  unfold loadPhase at h
  rcases bind_eq_error_iff.1 h with htableError | ⟨table, a, ha, hstore⟩
  · exact htable.of_error htableError
  refine F.trans (htable.of_ok ha) ?_
  rcases bind_eq_error_iff.1 hstore with hstoreError | ⟨prior, b, hb, hrest⟩
  · rw [(ofExcept_eq_error_iff.1 hstoreError).2]
    exact F.refl _
  rw [← (ofExcept_eq_ok_iff.1 hb).2]
  rcases bind_eq_error_iff.1 hrest with hsessionError | ⟨session, c, hc, hsources⟩
  · exact hsession.of_error hsessionError
  refine F.trans (hsession.of_ok hc) ?_
  clear h hstore hrest
  -- once the sources are known, their failures are part of the report
  cases hlisted : listed.isEmpty with
  | true =>
    simp only [hlisted, if_true] at hsources
    rcases bind_eq_error_iff.1 hsources with hfound | ⟨paths, d, -, hload⟩
    · rw [(ofExcept_eq_error_iff.1 hfound).2]
      exact F.refl _
    rcases bind_eq_error_iff.1 hload with hvisits | ⟨progress, u, -, hend⟩
    · cases hvisits
    rcases bind_eq_error_iff.1 hend with hnotify | ⟨_, v, -, hfinal⟩
    · exact absurd hnotify notify_ne_error
    · exact absurd hfinal pure_ne_error
  | false =>
    simp only [hlisted, Bool.false_eq_true, if_false] at hsources
    rcases bind_eq_error_iff.1 hsources with hfound | ⟨paths, d, -, hload⟩
    · exact absurd hfound pure_ne_error
    rcases bind_eq_error_iff.1 hload with hvisits | ⟨progress, u, -, hend⟩
    · cases hvisits
    · exact absurd hend pure_ne_error

end

namespace Run

variable (r : Run)

/-- Reading the schema of the in-memory database changes nothing. -/
theorem placeholderTable_within (F : Frame InMemory) (config : Config) :
    Loading.Within F (Loading.placeholderTable inMemory config) := by
  unfold Loading.placeholderTable
  cases config.loader.columnTypePlaceholders with
  | true => exact .bind (.ask fun d => F.refl d) fun _ => .pure _
  | false => exact .pure _

/-- A run that does not get to its sources leaves the routines and the calls, and it has only asked
    for the SQL mode. -/
theorem database_of_loadPhase_error {e : RunError} {s' : Session InMemory}
    (h : loadPhase inMemory r.config r.listed r.files ⟨r.database, []⟩ = .error e s') :
    s'.database.routines = r.database.routines ∧ s'.database.calls = r.database.calls ∧
      ∃ added, s'.database.statements = r.database.statements ++ added ∧ ∀ sql ∈ added,
        sql = Database.sqlModeStatement r.config.loader.session.sqlMode ∨
          sql = Loading.sqlModeQuery := by
  have hkept := loadPhase_eq_error
    (F := Frame.view fun d : InMemory => (d.routines, d.calls)) (placeholderTable_within _ _)
    (Loading.canonicalSession_within _ (fun _ => rfl) (fun _ => rfl) fun _ => rfl) h
  have hlogged := loadPhase_eq_error
    (F := Frame.logged fun sql => sql = Database.sqlModeStatement r.config.loader.session.sqlMode ∨
      sql = Loading.sqlModeQuery) (placeholderTable_within _ _)
    (Loading.canonicalSession_within _
      (fun d => ⟨[_], rfl, fun sql hsql => .inl (List.mem_singleton.1 hsql)⟩)
      (fun d => ⟨[_], rfl, fun sql hsql => .inr (List.mem_singleton.1 hsql)⟩)
      (fun d => ⟨[], (List.append_nil _).symm, nofun⟩)) h
  obtain ⟨hroutines, hcalls⟩ := Prod.mk.inj hkept
  exact ⟨hroutines, hcalls, hlogged⟩

/-- If a run fails, the file of the records holds the bytes that it held, or it is still missing,
    except that a path which goes up, and for which the run has made a directory, may have come to
    lead to a file that was there already. If the run has not come to save the records, all files
    are as they were, no routine has been dropped, created or called, and the database has been
    asked for the SQL mode at most. If the run succeeds, the file is the text of its records. There
    are no links in a file tree, so what a save replaces is the file itself. -/
theorem records_kept_or_saved :
    (∀ e, r.outcome.result = .error e →
      (r.outcome.files.content? r.recordsPath = r.files.content? r.recordsPath ∨
        r.files.ComesToLight r.outcome.files r.recordsPath) ∧
      (e.isOfSaving = false →
        r.outcome.files = r.files ∧
        r.outcome.session.database.routines = r.database.routines ∧
        r.outcome.session.database.calls = r.database.calls ∧
        ∃ added, r.outcome.session.database.statements = r.database.statements ++ added ∧
          ∀ sql ∈ added, sql = Database.sqlModeStatement r.config.loader.session.sqlMode ∨
            sql = Loading.sqlModeQuery)) ∧
    ∀ report, r.outcome.result = .ok report →
      ∃ progress s', loadPhase inMemory r.config r.listed r.files ⟨r.database, []⟩ =
          .ok progress s' ∧
        report = progress.report ∧
        r.outcome.files.content? r.recordsPath =
          some (Records.print progress.store.records).toUTF8 := by
  rcases run_cases inMemory r.config r.listed r.files ⟨r.database, []⟩ with
    ⟨e, s', hphase, hrun⟩ | ⟨progress, s', hphase, ⟨e, saved, hsave, hrun⟩ | ⟨saved, hsave, hrun⟩⟩
  all_goals
    change r.outcome = _ at hrun
    rw [hrun]
  · -- the run has failed before it came to save, so the files are those at the start
    refine ⟨fun e' he => ⟨.inl rfl, fun _ => ⟨rfl, r.database_of_loadPhase_error hphase⟩⟩, ?_⟩
    rintro report ⟨⟩
  · -- the save has failed at one of its steps, and none of them touches the file before the last
    have hpath : progress.store.path = r.recordsPath := path_of_loadPhase hphase
    refine ⟨fun e' he => ⟨?_, fun hkind => ?_⟩, by rintro report ⟨⟩⟩
    · rw [← hpath]
      exact Store.content?_of_failed_save hsave
    · obtain rfl : RunError.store e = e' := Except.error.inj he
      rw [Store.isOfSaving_of_save hsave] at hkind
      cases hkind
  · have hpath : progress.store.path = r.recordsPath := path_of_loadPhase hphase
    refine ⟨by rintro e ⟨⟩, fun report hreport => ?_⟩
    refine ⟨progress, s', hphase, (Except.ok.inj hreport).symm, ?_⟩
    rw [← hpath]
    exact Store.content?_of_save hsave

/-! ### A sibling file that is in the way -/

/-- Records, a directory where their sibling file would be, and a directory for sources. -/
def archiveFiles : FileTree :=
  ((((FileTree.empty 2000).add ⟨"/etc/routines.json"⟩ "{}".toUTF8 1000).makeDirectories
    ⟨"/etc/routines.json.tmp"⟩).2.makeDirectories ⟨"/psql"⟩).2

/-- A run that keeps its records under a path of the files. -/
def archiveRun (records : String) (failing : List String) : Run where
  config := { sampleConfig [] with
    loader := { (sampleConfig []).loader with recordsPath := ⟨records⟩ } }
  listed := []
  files := archiveFiles
  database := { InMemory.empty with failing }

/-- The conditions can be met: the sibling file cannot be written, or the SQL mode not be set, or
    everything goes well. -/
theorem records_kept_or_saved_archive :
    (archiveRun "/etc/routines.json" []).outcome.files.content? ⟨"/etc/routines.json"⟩ =
      some "{}".toUTF8 ∧
    (archiveRun "/etc/routines.json" ["set sql_mode"]).outcome.files = archiveFiles ∧
    ∃ progress s', loadPhase inMemory (archiveRun "/log/routines.json" []).config [] archiveFiles
        ⟨.empty, []⟩ = .ok progress s' ∧
      (archiveRun "/log/routines.json" []).outcome.files.content? ⟨"/log/routines.json"⟩ =
        some (Records.print progress.store.records).toUTF8 := by
  have hblocked : (archiveRun "/etc/routines.json" []).outcome.result =
      .error (.store (.notWritten ⟨"/etc/routines.json.tmp"⟩)) := by decide +kernel
  have hrefused : (archiveRun "/etc/routines.json" ["set sql_mode"]).outcome.result =
      .error (.sqlModeNotSet "ANSI" (.rejected "set sql_mode" "set sql_mode = 'ANSI'")) := by
    decide +kernel
  have hdone : (archiveRun "/log/routines.json" []).outcome.result = .ok .empty := by decide +kernel
  have hbefore : archiveFiles.content? ⟨"/etc/routines.json"⟩ = some "{}".toUTF8 := by
    decide +kernel
  refine ⟨?_, (((records_kept_or_saved _).1 _ hrefused).2 rfl).1, ?_⟩
  · rcases ((records_kept_or_saved _).1 _ hblocked).1 with hsame | hlight
    · exact hsame.trans hbefore
    · exact absurd hlight.up (by decide +kernel)
  · obtain ⟨progress, s', hphase, -, hcontent⟩ := (records_kept_or_saved _).2 _ hdone
    exact ⟨progress, s', hphase, hcontent⟩

/-- The path of the records leads nowhere. The run makes a directory and fails, and then the path
    leads to another file. -/
theorem records_unveiled :
    (archiveRun "/new/../etc/routines.json" []).outcome.result =
        .error (.store (.notWritten ⟨"/new/../etc/routines.json.tmp"⟩)) ∧
      archiveFiles.content? ⟨"/new/../etc/routines.json"⟩ = none ∧
      (archiveRun "/new/../etc/routines.json" []).outcome.files.content?
        ⟨"/new/../etc/routines.json"⟩ = some "{}".toUTF8 := by
  refine ⟨?_, ?_, ?_⟩ <;> decide +kernel

end Run

end StoredRoutines
