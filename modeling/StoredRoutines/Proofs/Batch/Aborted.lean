import StoredRoutines.Proofs.Batch.History

/-!
# Runs that fail

A run that cannot save its records has changed the database all the same. A later run may then find
the old record of a routine fitting and skip the source, although the database holds the text of
the failed run.

## Main definitions

- `Creator` — the visit of a history that has created a routine last
- `Settled` — the source of a routine stays as it is
- `Vouched` — what a record in the file says about the routine

## Main results

- `History.stale_iff` — when a skipped routine is not what its source would be now
- `aborted_run_leaves_stale` — a history in which this happens
-/

namespace StoredRoutines

variable {runs : List Run} {n : String}

/-- This visit of a run of the history creates a routine of the name, and no later one does. -/
structure Creator (runs : List Run) (n : String) (q : Run) (v : Visit) (kind : RoutineKind)
    (text : String) : Prop where
  creation : LastCreation q.visits n v kind text
  last : ∃ newer older, runs = newer ++ q :: older ∧
    ∀ r ∈ newer, ∀ w ∈ r.visits, ¬ w.CreatesName n

/-- All runs of the history that visit a source of the name read the same one. -/
def Settled (runs : List Run) (n : String) (source : Source) : Prop :=
  ∀ q ∈ runs, ∀ v ∈ q.visits, v.name = n → readSource q.files v.path = .ok source

/-- A run of the history has made the record by a load, and the routine, if there is one, has been
    created by some visit. If this is a visit of its own source in a run that has completed, then it
    has made the record. -/
structure Vouched (runs : List Run) (n : String) (record : RoutineRecord)
    (routine : Option StoredRoutine) : Prop where
  /-- Where the record comes from. -/
  made : ∃ q ∈ runs, ∃ v ∈ q.visits, v.name = n ∧
    ∃ source parsed d, v.Loads source parsed record d
  /-- Where the routine comes from. -/
  created : ∀ e, routine = some e → ∃ q v kind text, Creator runs n q v kind text ∧
    e = ⟨kind, text, q.session⟩ ∧ (q.Completes → v.name = n →
      ∃ source parsed d, v.Loads source parsed record d)

theorem Creator.mem {q : Run} {v : Visit} {kind : RoutineKind} {text : String}
    (h : Creator runs n q v kind text) : q ∈ runs := by
  obtain ⟨newer, older, rfl, -⟩ := h.last
  exact List.mem_append_right _ List.mem_cons_self

/-- A later run that does not create the routine leaves its creator as it was. -/
theorem Creator.cons {q r : Run} {v : Visit} {kind : RoutineKind} {text : String}
    (h : Creator runs n q v kind text) (hr : ∀ w ∈ r.visits, ¬ w.CreatesName n) :
    Creator (r :: runs) n q v kind text := by
  obtain ⟨newer, older, rfl, hnewer⟩ := h.last
  refine ⟨h.creation, r :: newer, older, rfl, fun p hp => ?_⟩
  rcases List.mem_cons.1 hp with rfl | hp
  · exact hr
  · exact hnewer p hp

/-- A routine that its own source has created has the text that this source had in the run. -/
theorem Creator.text_of_settled {source : Source} (hsource : Settled runs n source) {q : Run}
    {v : Visit} {kind : RoutineKind} {text : String} (h : Creator runs n q v kind text)
    (hn : v.name = n) :
    ∃ parsed, source.parse q.table = .ok parsed ∧ source.statement parsed = text := by
  obtain ⟨source', parsed, d, hinstalls, htext, -⟩ := h.creation.creates
  obtain ⟨hread, hparse⟩ := Run.source_of_installs h.creation.mem hinstalls
  obtain rfl := Except.ok.inj ((hsource q h.mem v h.creation.mem hn).symm.trans hread)
  exact ⟨parsed, hparse, htext⟩

/-- A record that fits some placeholders has been made from what the source says under them. -/
theorem Settled.parse_eq {source source' : Source} (hsource : Settled runs n source) {q : Run}
    (hq : q ∈ runs) {v : Visit} (hv : v ∈ q.visits) (hn : v.name = n) {parsed : ParsedRoutine}
    {m : RoutineRecord} {d : InMemory} (hload : v.Loads source' parsed m d)
    {table : Placeholder.Table} (hsame : changedPlaceholder? m table = none) :
    source.parse q.table = .ok parsed ∧ source.parse table = .ok parsed := by
  obtain ⟨hread, hparse⟩ := Run.source_of_installs hv hload.toInstalls
  obtain rfl := Except.ok.inj ((hsource q hq v hv hn).symm.trans hread)
  have hvalues := (hload.recordOf.changedPlaceholder?_eq_none_iff hparse).1 hsame
  exact ⟨hparse, Source.parse_congr hparse rfl rfl hvalues⟩

/-- What a run does to a record that is vouched for. -/
theorem Vouched.step {r : Run} {record record' : Option RoutineRecord}
    {routine routine' : Option StoredRoutine}
    (h : ∀ m, record = some m → Vouched runs n m routine)
    (hchange : r.Change n record record' routine routine') :
    ∀ m, record' = some m → Vouched (r :: runs) n m routine' := by
  intro m hm
  subst hm
  have hcase := hchange.kept_or_loaded
  refine ⟨?_, fun e he => ?_⟩
  · rcases hcase with ⟨hbefore, -⟩ | ⟨-, v, hv, hn, hload⟩
    · obtain ⟨q, hq, hmade⟩ := (h m hbefore).made
      exact ⟨q, List.mem_cons_of_mem _ hq, hmade⟩
    · exact ⟨r, List.mem_cons_self, v, hv, hn, hload⟩
  · rcases hchange.created e he with ⟨hsame, hnone⟩ | ⟨w, kind, text, hlast, rfl⟩
    -- nobody has created the routine in this run, so its source has not been installed
    · have hbefore : record = some m := by
        rcases hcase with ⟨hbefore, -⟩ | ⟨-, v, hv, hn, source, parsed, d, hload⟩
        · exact hbefore
        · obtain ⟨w, kind, text, hlast, -⟩ :=
            hchange.created_of_installs hv hn hload.toInstalls he
          exact absurd ⟨kind, text, hlast.creates⟩ (hnone w hlast.mem)
      obtain ⟨q, v, kind, text, hcreator, rfl, hmade⟩ := (h m hbefore).created e hsame
      exact ⟨q, v, kind, text, hcreator.cons hnone, rfl, hmade⟩
    · refine ⟨r, w, kind, text, ⟨hlast, [], runs, rfl, nofun⟩, rfl, fun hr hn => ?_⟩
      have hafter := (hchange.left hlast.mem hn).1 hr
      rcases w.record_after hafter.symm with ⟨hskip, -⟩ | hload
      · exact absurd hskip hlast.creates.not_skips
      · exact hload

namespace History

variable {path : Path} {r : Run} {older : List Run} {source : Source} {report : Report}

/-- Every record of a history is vouched for: a run has made it, and the last creation of its
    routine is known. -/
theorem vouched (h : History path (r :: older)) :
    ∀ m, (keptRecords (r :: older)).get? n = some m →
      Vouched (r :: older) n m (r.outcome.session.database.routines.get? n) := by
  refine h.invariant (P := fun runs record routine =>
    ∀ m, record = some m → Vouched runs n m routine) ?_ ?_
  · intro routine m hm
    cases hm
  · intro q runs record record' routine routine' hbefore hchange
    exact Vouched.step hbefore hchange

/-- Let some runs of a history fail, and let the source of a routine stay as it is. If a run that
    completes reports the routine as unchanged, then a load would install some text in its place,
    and the database holds another text exactly if the routine has last been created by its own
    source in a run that failed, under placeholders that give another text, or by another source
    with another text. -/
theorem stale_iff (h : History path (r :: older)) (hsource : Settled (r :: older) n source)
    (hr : r.outcome.result = .ok report) (hn : n ∈ report.unchanged) :
    ∃ parsed, source.parse r.table = .ok parsed ∧
      ∃ q v kind text, Creator (r :: older) n q v kind text ∧
        r.outcome.session.database.routines.get? n = some ⟨kind, text, r.session⟩ ∧
        (text ≠ source.statement parsed ↔
          (v.name = n ∧ ¬ q.Completes ∧ ∃ parsed', source.parse q.table = .ok parsed' ∧
            source.statement parsed' ≠ source.statement parsed) ∨
          (v.name ≠ n ∧ text ≠ source.statement parsed)) := by
  have hrc : r.Completes := ⟨report, hr⟩
  obtain ⟨u, hu, hskip, hun⟩ := (Run.mem_unchanged hr n).1 hn
  obtain ⟨m, e, hm, he⟩ := hskip.recorded
  obtain ⟨-, hsame, hsession⟩ := (Visit.skips_iff hm he).1 hskip
  obtain ⟨hsetting, -⟩ := Run.setting_of_mem_visits hu
  rw [hsetting] at hsame hsession
  -- the run leaves the record and the routine that it has found fitting
  obtain ⟨hrecord, hroutine⟩ := (h.change n).of_skips hrc hu hun hskip
  rw [hun] at he
  rw [hm] at hrecord
  rw [he] at hroutine
  have hvouched := h.vouched (n := n) m hrecord
  rw [hroutine] at hvouched ⊢
  -- where the record has been made its tokens had the values that they have now
  obtain ⟨q₀, hq₀, v₀, hv₀, hvn₀, source₀, parsed, d₀, hload₀⟩ := hvouched.made
  obtain ⟨-, hparse⟩ := hsource.parse_eq hq₀ hv₀ hvn₀ hload₀ hsame
  obtain ⟨q, v, kind, text, hcreator, rfl, hmade⟩ := hvouched.created e rfl
  have hsession : q.session = r.session := hsession
  refine ⟨parsed, hparse, q, v, kind, text, hcreator, by rw [hsession], ?_⟩
  by_cases hvn : v.name = n
  · obtain ⟨parsed', hparse', rfl⟩ := hcreator.text_of_settled hsource hvn
    constructor
    · intro hne
      refine .inl ⟨hvn, fun hq => hne ?_, parsed', hparse', hne⟩
      -- a run that completes has made the record in the visit that has created the routine
      obtain ⟨source', parsed'', d, hload⟩ := hmade hq hvn
      obtain ⟨hthen, hnow⟩ :=
        hsource.parse_eq hcreator.mem hcreator.creation.mem hvn hload hsame
      obtain rfl := Except.ok.inj (hparse'.symm.trans hthen)
      obtain rfl := Except.ok.inj (hparse.symm.trans hnow)
      rfl
    · rintro (⟨-, -, parsed'', hparse'', hne⟩ | ⟨hvn', -⟩)
      · obtain rfl := Except.ok.inj (hparse'.symm.trans hparse'')
        exact hne
      · exact absurd hvn hvn'
  · constructor
    · exact fun hne => .inr ⟨hvn, hne⟩
    · rintro (⟨hvn', -⟩ | ⟨-, hne⟩)
      · exact absurd hvn' hvn
      · exact hne

end History

/-! ### A value that goes there and back -/

namespace Run

variable {q r : Run}

/-- The run after one that has completed, while a directory is in its way. -/
def obstructed (q : Run) (config : Config) (obstacle : Path) : Run :=
  ⟨config, q.listed, (q.outcome.files.makeDirectories obstacle).2, q.outcome.session.database⟩

theorem obstructed_follows {config : Config} (obstacle : Path) (hq : q.Completes)
    (hpath : config.loader.recordsPath = q.recordsPath) :
    (q.obstructed config obstacle).Follows q := by
  obtain ⟨-, text, htext⟩ := hq.readText?
  refine ⟨hpath, ?_, rfl⟩
  exact (FileTree.keeps_makeDirectories (fun _ => False) _ _).sameAt htext fun _ _ => id

/-- A run with the settings of another one, on the files that this one has left and the database
    that a run in between has left. -/
def again (q : Run) (database : InMemory) : Run :=
  ⟨q.config, q.listed, q.outcome.files, database⟩

/-- The tree of a completed run, taken again, shows the records as a failed run has left them. -/
theorem again_follows {database : InMemory} (h : r.Follows q) (hq : q.Completes)
    (hr : ¬ r.Completes) (hdatabase : r.outcome.session.database = database) :
    (q.again database).Follows r := by
  have hfiles := h.files
  obtain ⟨-, text, htext⟩ := hq.readText?
  rw [← h.path] at hfiles htext
  rw [← hfiles.text] at htext
  have hsame := sameAt_of_not_completes hr htext
  refine ⟨h.path.symm, (hfiles.trans hsame).symm, ?_⟩
  rw [hdatabase]
  rfl

theorem load_again (database : InMemory) (hq : q.Completes) :
    Store.load (q.again database).files (q.again database).recordsPath =
      .ok ⟨q.recordsPath, q.records⟩ :=
  hq.load ⟨rfl, rfl⟩

/-- A run behind a completed one finds a file under the path of the records, so it brings none to
    light. -/
theorem not_unveils_of_follows (h : r.Follows q) (hq : q.Completes) : ¬ r.Unveils := by
  rintro ⟨-, habsent, -⟩
  rw [h.path, h.files.exist, hq.readText?.1] at habsent
  cases habsent

end Run

/-- The source of a procedure with a placeholder. -/
def noteSource : Source where
  path := ⟨"/note.psql"⟩
  text := "create procedure note()\n-- type: none\nbegin\nselect @X@;\nend\n"
  mtime := 1000

/-- The first run loads the source under the value 1. -/
def firstNote : Run where
  config := sampleConfig [("X", "1")]
  listed := [noteSource.path]
  files := (FileTree.empty 2000).add noteSource.path noteSource.text.toUTF8 noteSource.mtime
  database := InMemory.empty

/-- A run with another value, while a directory is where the records have to be written. -/
def secondNote : Run :=
  firstNote.obstructed (sampleConfig [("X", "2")]) ⟨"/routines.json.tmp"⟩

/-- A run with the first value again, after the directory has been removed. -/
def thirdNote : Run :=
  firstNote.again (((secondNote.ending? ⟨secondNote.recordsPath, firstNote.records⟩).map (·.2)).getD
    InMemory.empty)

theorem firstNote_completes : firstNote.Completes := by
  decide +kernel

/-- The second run cannot write its records. -/
theorem secondNote_ending : (secondNote.ending? ⟨secondNote.recordsPath, firstNote.records⟩).any
    (fun (result, _) => !result.isOk) = true := by
  decide +kernel

/-- The third run skips the source, although the database holds another text than the source now
    makes. -/
theorem thirdNote_ending : (thirdNote.ending? ⟨firstNote.recordsPath, firstNote.records⟩).any
    (fun (result, d) =>
      result.toOption.any (fun report => report.unchanged.contains "note") &&
      (d.routines.get? "note").any fun e =>
        (noteSource.parse thirdNote.table).toOption.any fun parsed =>
          e.source != noteSource.statement parsed) = true := by
  decide +kernel

theorem secondNote_follows : secondNote.Follows firstNote :=
  Run.obstructed_follows _ firstNote_completes rfl

theorem secondNote_fails : ¬ secondNote.Completes ∧ secondNote.outcome.session.database =
    ((secondNote.ending? ⟨secondNote.recordsPath, firstNote.records⟩).map (·.2)).getD
      InMemory.empty := by
  obtain ⟨⟨result, d⟩, hending, hfails⟩ := (Option.any_eq_true _ _).1 secondNote_ending
  obtain ⟨hresult, rfl⟩ := secondNote_follows.outcome_of_ending? firstNote_completes hending
  refine ⟨?_, (Run.database_of_ending? hending).symm⟩
  rintro ⟨report, hreport⟩
  rw [hresult] at hreport
  cases result with
  | ok report => simp [Except.isOk, Except.toBool] at hfails
  | error e => cases hreport

theorem thirdNote_follows : thirdNote.Follows secondNote :=
  Run.again_follows secondNote_follows firstNote_completes secondNote_fails.1 secondNote_fails.2

theorem note_history : History ⟨"/routines.json"⟩ [thirdNote, secondNote, firstNote] := by
  have hfirst : History ⟨"/routines.json"⟩ [firstNote] := .first rfl (by decide +kernel)
  have hsecond := hfirst.next secondNote_follows firstNote_completes.not_unveils
  exact hsecond.next thirdNote_follows
    (Run.not_unveils_of_follows secondNote_follows firstNote_completes)

theorem note_settled : Settled [thirdNote, secondNote, firstNote] "note" noteSource := by
  have hall : ∀ q ∈ [thirdNote, secondNote, firstNote], q.sources = [noteSource.path] ∧
      (readSource q.files noteSource.path).toOption = some noteSource := by
    decide +kernel
  intro q hq v hv _
  obtain ⟨hsources, hread⟩ := hall q hq
  have hpath := (mem_visited.1 (Run.setting_of_mem_visits hv).2).1
  rw [hsources, List.mem_singleton] at hpath
  rw [hpath]
  exact Run.ok_of_toOption hread

/-- What the third run reports, and what it leaves in the database. -/
theorem note_outcome : ∃ report e parsed, thirdNote.outcome.result = .ok report ∧
    "note" ∈ report.unchanged ∧
    thirdNote.outcome.session.database.routines.get? "note" = some e ∧
    noteSource.parse thirdNote.table = .ok parsed ∧ e.source ≠ noteSource.statement parsed := by
  obtain ⟨⟨result, d⟩, hending, hends⟩ := (Option.any_eq_true _ _).1 thirdNote_ending
  have hload : Store.load thirdNote.files thirdNote.recordsPath =
      .ok ⟨firstNote.recordsPath, firstNote.records⟩ := Run.load_again _ firstNote_completes
  obtain ⟨hresult, rfl⟩ := Run.outcome_of_ending? hload hending
  simp only [Bool.and_eq_true, Option.any_eq_true, List.contains_iff_mem, bne_iff_ne] at hends
  obtain ⟨⟨report, hreport, hn⟩, e, he, parsed, hparse, hne⟩ := hends
  obtain rfl := Run.ok_of_toOption hreport
  exact ⟨report, e, parsed, hresult, hn, he, Run.ok_of_toOption hparse, hne⟩

/-- The conditions can be met: the third run skips the source, and what the failed run has created
    stays. -/
theorem stale_iff_note :
    ¬ secondNote.Completes ∧ ∃ parsed, noteSource.parse thirdNote.table = .ok parsed ∧
      ∃ q v kind text, Creator [thirdNote, secondNote, firstNote] "note" q v kind text ∧
        thirdNote.outcome.session.database.routines.get? "note" =
          some ⟨kind, text, thirdNote.session⟩ ∧
        (text ≠ noteSource.statement parsed ↔
          (v.name = "note" ∧ ¬ q.Completes ∧ ∃ parsed', noteSource.parse q.table = .ok parsed' ∧
            noteSource.statement parsed' ≠ noteSource.statement parsed) ∨
          (v.name ≠ "note" ∧ text ≠ noteSource.statement parsed)) := by
  obtain ⟨report, -, -, hresult, hn, -⟩ := note_outcome
  exact ⟨secondNote_fails.1, note_history.stale_iff note_settled hresult hn⟩

/-- A run that fails leaves a routine behind that a later run takes for the one of its source. -/
theorem aborted_run_leaves_stale :
    History ⟨"/routines.json"⟩ [thirdNote, secondNote, firstNote] ∧ firstNote.Completes ∧
      ¬ secondNote.Completes ∧ Settled [thirdNote, secondNote, firstNote] "note" noteSource ∧
      ∃ report e parsed, thirdNote.outcome.result = .ok report ∧ "note" ∈ report.unchanged ∧
        thirdNote.outcome.session.database.routines.get? "note" = some e ∧
        noteSource.parse thirdNote.table = .ok parsed ∧
        e.source ≠ noteSource.statement parsed :=
  ⟨note_history, firstNote_completes, secondNote_fails.1, note_settled, note_outcome⟩

end StoredRoutines
