import StoredRoutines.Proofs.Batch.History
import StoredRoutines.Proofs.Load.Separation

/-!
# Incremental loading

The run after one that has loaded a routine skips it exactly if its source, its placeholders and
the session are the same. It then leaves the record and the routine as they are, and neither drops
nor calls the routine.

## Main definitions

- `Run.Spares` — what a run does not do to a routine

## Main results

- `Run.loaded_from`, `Run.after_load` — what the first run leaves of a routine that it loads
- `Run.Follows.spares_of_skips` — a run spares the routines that it skips
- `Run.Follows.unchanged_iff` — when the next run skips a routine, and what it does then
- `renamed_source_creates` — a statement that would create a skipped routine is sent nevertheless
-/

namespace StoredRoutines

namespace Run

variable {r q : Run} {n : String} {p : Path}

/-- A run leaves a routine alone that another one has left behind. -/
structure Spares (r q : Run) (n : String) : Prop where
  record : ∃ store store' m, Store.load q.outcome.files q.recordsPath = .ok store ∧
    Store.load r.outcome.files r.recordsPath = .ok store' ∧ store.get? n = some m ∧
    store'.get? n = some m
  routine : r.outcome.session.database.routines.get? n =
    q.outcome.session.database.routines.get? n
  /-- No statement drops or calls the routine, and all but those that find out the SQL mode are sent
      for other sources. -/
  statements : ∃ sent,
    r.outcome.session.database.statements = r.database.statements ++ sent ∧
    ∀ sql ∈ sent, ¬ InMemory.Concerns n sql ∧
      (sql = Database.sqlModeStatement r.config.loader.session.sqlMode ∨
        sql = Loading.sqlModeQuery ∨
        ∃ w ∈ r.visits, w.name ≠ n ∧ InMemory.Sent w.name w.Text sql)

/-- The visited sources are those that are the only ones of their routine. -/
theorem exists_visit (hr : r.Completes) (hp : p ∈ StoredRoutines.visited r.sources) :
    ∃ v ∈ r.visits, v.path = p := by
  obtain ⟨report, hreport⟩ := hr
  obtain ⟨store, s, hb, -, -⟩ := begun_of_ok hreport
  rw [← @paths_visits r.setting (noted r.sources store s) (StoredRoutines.visited r.sources),
    ← visits_of_begun hb] at hp
  exact List.mem_map.1 hp

/-- A routine that is loaded was visited at the path of its source. -/
theorem loaded_from {report : Report} (hr : r.outcome.result = .ok report)
    (hn : n ∈ report.loaded) (hp : p ∈ r.sources) (hstem : p.stem = n) :
    ∃ v ∈ r.visits, v.name = n ∧ v.path = p ∧
      ∃ source parsed record d, v.Loads source parsed record d := by
  obtain ⟨v, hv, hname, hloads⟩ := (mem_loaded hr n).1 hn
  obtain ⟨-, hvisited⟩ := setting_of_mem_visits hv
  have hsame : p.stem = v.path.stem := hstem.trans hname.symm
  have hp' : p ∈ StoredRoutines.visited r.sources := by
    refine mem_visited.2 ⟨hp, ?_⟩
    rw [hsame]
    exact (mem_visited.1 hvisited).2
  have hpath := List.inj_on_of_nodup_map (visited_nodup r.sources) hvisited hp' hsame.symm
  exact ⟨v, hv, hname, hpath, hloads⟩

/-- What a load leaves behind at the end of a run that completes. -/
theorem after_load (hr : r.Completes) {v : Visit} (hv : v ∈ r.visits) (hname : v.name = n)
    {source : Source} {parsed : ParsedRoutine} {m : RoutineRecord} {d : InMemory}
    (hload : v.Loads source parsed m d) :
    r.records.get? n = some m ∧ ∀ e, r.outcome.session.database.routines.get? n = some e →
      e.settings = r.session := by
  obtain ⟨report, hreport⟩ := hr
  obtain ⟨store, s, hb, -, -⟩ := begun_of_ok hreport
  have hchange := change_of_load (r.begun?_eq_some hb).1 n
  rw [if_pos ⟨report, hreport⟩] at hchange
  refine ⟨?_, fun e he => ?_⟩
  · rw [(hchange.left hv hname).1 ⟨report, hreport⟩]
    exact hload.record_after
  · obtain ⟨w, kind, text, -, rfl⟩ := hchange.created_of_installs hv hname hload.toInstalls he
    rfl

/-- The record of a load has the time of its source. -/
theorem timestamp_of_loads {v : Visit} (hv : v ∈ r.visits) {source : Source}
    {parsed : ParsedRoutine} {m : RoutineRecord} {d : InMemory}
    (hload : v.Loads source parsed m d) :
    modifiedTime r.files v.path = .ok m.timestamp := by
  obtain ⟨hread, -⟩ := source_of_installs hv hload.toInstalls
  obtain ⟨modified, _, hm, -⟩ := hload.due
  rw [(setting_of_mem_visits hv).1] at hm
  have hm : modifiedTime r.files v.path = .ok modified := hm
  rw [hm, hload.recordOf.timestamp, mtime_of_readSource hread hm]

/-- A routine is reported as unchanged exactly if its visit skips it. -/
theorem name_mem_unchanged {report : Report} (hr : r.outcome.result = .ok report) {v : Visit}
    (hv : v ∈ r.visits) : v.name ∈ report.unchanged ↔ v.Skips := by
  rw [mem_unchanged hr]
  constructor
  · rintro ⟨u, hu, hskip, hun⟩
    obtain rfl := visit_unique hu hv hun
    exact hskip
  · intro hskip
    exact ⟨v, hv, hskip, rfl⟩

/-- A run sends its statements for the sources that it does not skip. -/
theorem sent_of_skips (hr : r.Completes) {v : Visit} (hv : v ∈ r.visits) (hskip : v.Skips)
    (hline : '\n' ∉ v.name.toList) :
    ∃ sent, r.outcome.session.database.statements = r.database.statements ++ sent ∧
      ∀ sql ∈ sent, ¬ InMemory.Concerns v.name sql ∧
        (sql = Database.sqlModeStatement r.config.loader.session.sqlMode ∨
          sql = Loading.sqlModeQuery ∨
          ∃ u ∈ r.visits, u.name ≠ v.name ∧ InMemory.Sent u.name u.Text sql) := by
  obtain ⟨report, hreport⟩ := hr
  obtain ⟨store, s, hb, -, -⟩ := begun_of_ok hreport
  obtain ⟨sent, hsent, hall⟩ := logged_of_begun hb
  refine ⟨sent, hsent, fun sql hsql => ?_⟩
  rcases hall sql hsql with rfl | rfl | ⟨u, hu, huskip, husent⟩
  · exact ⟨InMemory.not_concerns_sqlMode _ _, .inl rfl⟩
  · exact ⟨InMemory.not_concerns_sqlModeQuery _, .inr (.inl rfl)⟩
  · have hne : u.name ≠ v.name := by
      intro hun
      obtain rfl := visit_unique hu hv hun
      exact huskip hskip
    refine ⟨husent.not_concerns hne hline ?_, .inr (.inr ⟨u, hu, hne, husent⟩)⟩
    rintro text ⟨source, parsed, -, hparse, rfl⟩
    exact Source.newline_mem_statement hparse

namespace Follows

variable {m : RoutineRecord} {e : StoredRoutine}

/-- The next run finds the records and the routines that the last one has left. -/
theorem change (h : r.Follows q) (hq : q.Completes) (hr : r.Completes) (n : String) :
    r.Change n (q.records.get? n) (r.records.get? n)
      (q.outcome.session.database.routines.get? n)
      (r.outcome.session.database.routines.get? n) := by
  have hkept := hq.load h.files
  rw [← h.path] at hkept
  have hchange := change_of_load hkept n
  rw [if_pos hr, h.routines] at hchange
  exact hchange

/-- The visit of a source finds the record and the routine that the last run has left. -/
theorem found (h : r.Follows q) (hq : q.Completes) (hr : r.Completes) {v : Visit}
    (hv : v ∈ r.visits) (hrecord : q.records.get? v.name = some m)
    (he : q.outcome.session.database.routines.get? v.name = some e) :
    v.record? = some m ∧ v.routine? v.name = some e := by
  have hchange := h.change hq hr v.name
  rw [hrecord, he] at hchange
  obtain ⟨hfound, hroutine⟩ := hchange.found hv rfl
  exact ⟨hfound, hroutine.of_some⟩

/-- A routine that is skipped is left alone. -/
theorem spares_of_skips (h : r.Follows q) (hq : q.Completes) (hr : r.Completes) {v : Visit}
    (hv : v ∈ r.visits) (hskip : v.Skips) (hline : '\n' ∉ v.name.toList)
    (hrecord : q.records.get? v.name = some m)
    (he : q.outcome.session.database.routines.get? v.name = some e) : r.Spares q v.name := by
  obtain ⟨hfound, hroutine⟩ := h.found hq hr hv hrecord he
  obtain ⟨hkept, hstays⟩ := (h.change hq hr v.name).of_skips hr hv rfl hskip
  rw [hfound] at hkept
  exact {
    record := ⟨_, _, m, hq.load ⟨rfl, rfl⟩, hr.load ⟨rfl, rfl⟩, hrecord, hkept⟩
    routine := by rw [hstays, hroutine, he]
    statements := sent_of_skips hr hv hskip hline }

end Follows

end Run

/-- Let one run load a routine from a path, which the database then holds, and let the next run
    find the path to be its only source. The next run reports the routine as unchanged exactly if
    the source has the same time, all its tokens have the same values and the session settings are
    the same in the words of the database. Then it leaves the routine alone. There are no links in
    a file tree, so the time is that of the file which the path names. -/
theorem Run.Follows.unchanged_iff {r q : Run} {report report' : Report} {n : String} {p : Path}
    (h : r.Follows q) (hq : q.outcome.result = .ok report) (hr : r.outcome.result = .ok report')
    (hloaded : n ∈ report.loaded) (hp : p ∈ q.sources) (hstem : p.stem = n)
    (hholds : (q.outcome.session.database.routines.get? n).isSome)
    (honly : r.sources.filter (fun p => p.stem == n) = [p]) :
    ∃ source, readSource q.files p = .ok source ∧
      (n ∈ report'.unchanged ↔ modifiedTime r.files p = modifiedTime q.files p ∧
        (∀ token ∈ Placeholder.tokens source.text, r.table.get? token = q.table.get? token) ∧
        r.session = q.session) ∧
      (n ∈ report'.unchanged → r.Spares q n) := by
  have hqc : q.Completes := ⟨report, hq⟩
  have hrc : r.Completes := ⟨report', hr⟩
  -- the load in the first run
  obtain ⟨v, hv, hname, hpath, source, parsed, m, d, hload⟩ :=
    Run.loaded_from hq hloaded hp hstem
  obtain ⟨hrecord, hsettings⟩ := Run.after_load hqc hv hname hload
  obtain ⟨hread, hparse⟩ := Run.source_of_installs hv hload.toInstalls
  have htime := Run.timestamp_of_loads hv hload
  rw [hpath] at hread htime
  obtain ⟨e, he⟩ := Option.isSome_iff_exists.1 hholds
  -- the visit of the source in the second run
  obtain ⟨w, hw, hwpath⟩ := Run.exists_visit hrc (mem_visited_of_filter (hstem ▸ honly))
  obtain rfl : w.name = n := by
    rw [← hstem, ← hwpath]
    rfl
  obtain ⟨hwrecord, hwroutine⟩ := h.found hqc hrc hw hrecord he
  refine ⟨source, hread, ?_, ?_⟩
  · rw [Run.name_mem_unchanged hr hw, Visit.skips_iff hwrecord hwroutine,
      (Run.setting_of_mem_visits hw).1, hwpath,
      hload.recordOf.changedPlaceholder?_eq_none_iff hparse, hsettings e he, htime]
    exact Iff.and .rfl (Iff.and .rfl eq_comm)
  · intro hn
    have hline : '\n' ∉ w.name.toList := by
      rw [← hname, ← hload.signature_name]
      obtain ⟨-, -, hfind, -⟩ := Loading.parse_eq_ok hparse
      exact Signature.newline_notMem_name hfind
    exact h.spares_of_skips hqc hrc hw ((Run.name_mem_unchanged hr hw).1 hn) hline hrecord he

/-! ### A source that takes the name of another -/

/-- A source that declares another routine than its own once its placeholder has been replaced. -/
def nickText : String :=
  "@HEAD@\ncreate procedure nick()\n-- type: none\nbegin\nend\n"

/-- A source that declares the routine of its own name. -/
def nameText : String :=
  "create procedure name()\n-- type: none\nbegin\nend\n"

/-- A run on both sources. -/
def nickRun : Run where
  config := sampleConfig [("HEAD", "create procedure name()")]
  listed := [⟨"/nick.psql"⟩, ⟨"/name.psql"⟩]
  files := ((FileTree.empty 2000).add ⟨"/nick.psql"⟩ nickText.toUTF8 1000).add ⟨"/name.psql"⟩
    nameText.toUTF8 1000
  database := InMemory.empty

/-- The same run once more, on what the first one has left. -/
def nickAgain : Run :=
  nickRun.next nickRun.config nickRun.listed

theorem nickAgain_follows : nickAgain.Follows nickRun :=
  Run.next_follows _ rfl

/-- The first run loads the routine, and the database holds it. -/
theorem nickRun_ending : (nickRun.ending? ⟨nickRun.recordsPath, .empty⟩).any (fun (result, d) =>
    result.toOption.any (fun report => report.loaded.contains "name") &&
      (d.routines.get? "name").isSome) = true := by
  decide +kernel

/-- The second run skips the routine, and yet it sends a statement that declares it. -/
theorem nickAgain_ending : (nickAgain.ending? ⟨nickAgain.recordsPath, nickRun.records⟩).any
    (fun (result, d) =>
      result.toOption.any (fun report => report.unchanged.contains "name") &&
      (d.statements.drop nickAgain.database.statements.length).any fun sql =>
        Signature.find? sql == some ⟨.procedure, "name"⟩) = true := by
  decide +kernel

/-- What both runs report, and what the second one has sent. -/
theorem nick_outcomes :
    ∃ report report', nickRun.outcome.result = .ok report ∧
      nickAgain.outcome.result = .ok report' ∧ "name" ∈ report.loaded ∧
      (nickRun.outcome.session.database.routines.get? "name").isSome ∧
      "name" ∈ report'.unchanged ∧
      ∃ sql ∈ nickAgain.outcome.session.database.statements.drop
        nickAgain.database.statements.length,
        Signature.find? sql = some ⟨.procedure, "name"⟩ := by
  obtain ⟨⟨result, d⟩, hending, hfirst⟩ := (Option.any_eq_true _ _).1 nickRun_ending
  obtain ⟨⟨result', d'⟩, hending', hsecond⟩ := (Option.any_eq_true _ _).1 nickAgain_ending
  simp only [Bool.and_eq_true, Option.any_eq_true, List.contains_iff_mem, List.any_eq_true,
    beq_iff_eq] at hfirst hsecond
  obtain ⟨⟨report, hreport, hloaded⟩, hholds⟩ := hfirst
  obtain ⟨⟨report', hreport', hunchanged⟩, hsent⟩ := hsecond
  obtain rfl := Run.ok_of_toOption hreport
  obtain rfl := Run.ok_of_toOption hreport'
  have habsent : nickRun.files.doesExist nickRun.recordsPath = false := by decide +kernel
  obtain ⟨hresult, rfl⟩ := Run.outcome_of_ending? (Store.load_of_absent habsent) hending
  obtain ⟨hresult', rfl⟩ := nickAgain_follows.outcome_of_ending? ⟨_, hresult⟩ hending'
  exact ⟨_, _, hresult, hresult', hloaded, hholds, hunchanged, hsent⟩

/-- The conditions can be met: nothing has changed, and the second run skips the routine. -/
theorem unchanged_iff_nick :
    ∃ report' source, nickAgain.outcome.result = .ok report' ∧
      readSource nickRun.files ⟨"/name.psql"⟩ = .ok source ∧
      ("name" ∈ report'.unchanged ↔
        modifiedTime nickAgain.files ⟨"/name.psql"⟩ = modifiedTime nickRun.files ⟨"/name.psql"⟩ ∧
        (∀ token ∈ Placeholder.tokens source.text,
          nickAgain.table.get? token = nickRun.table.get? token) ∧
        nickAgain.session = nickRun.session) ∧
      nickAgain.Spares nickRun "name" := by
  obtain ⟨report, report', hfirst, hsecond, hloaded, hholds, hn, -⟩ := nick_outcomes
  obtain ⟨source, hread, hiff, hspares⟩ := nickAgain_follows.unchanged_iff hfirst hsecond hloaded
    (p := ⟨"/name.psql"⟩) (by decide +kernel) (by decide +kernel) hholds (by decide +kernel)
  exact ⟨report', source, hsecond, hread, hiff, hspares hn⟩

/-- A run that skips a routine may send a statement that creates it: the text of another source,
    once its placeholders have been replaced. -/
theorem renamed_source_creates :
    ∃ report report', nickAgain.Follows nickRun ∧ nickRun.outcome.result = .ok report ∧
      nickAgain.outcome.result = .ok report' ∧ "name" ∈ report.loaded ∧
      ⟨"/name.psql"⟩ ∈ nickRun.sources ∧ (⟨"/name.psql"⟩ : Path).stem = "name" ∧
      (nickRun.outcome.session.database.routines.get? "name").isSome ∧
      nickAgain.sources.filter (fun p => p.stem == "name") = [⟨"/name.psql"⟩] ∧
      "name" ∈ report'.unchanged ∧
      ∃ sql ∈ nickAgain.outcome.session.database.statements.drop
        nickAgain.database.statements.length,
        Signature.find? sql = some ⟨.procedure, "name"⟩ := by
  obtain ⟨report, report', hfirst, hsecond, hloaded, hholds, hn, hsent⟩ := nick_outcomes
  exact ⟨report, report', nickAgain_follows, hfirst, hsecond, hloaded, by decide +kernel,
    by decide +kernel, hholds, by decide +kernel, hn, hsent⟩

end StoredRoutines
