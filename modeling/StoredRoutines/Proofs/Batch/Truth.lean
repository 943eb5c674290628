import StoredRoutines.Proofs.Batch.History

/-!
# Records that tell the truth

As long as all runs complete and no substitution changes what a source declares first, the record
of a routine tells which text the database holds for it, and in which session it was created.

## Main definitions

- `LastLoad` — the load of a routine that no later run repeats
- `Truthful` — what a record says about the database

## Main results

- `History.records_truthful` — all records are truthful after every run
-/

namespace StoredRoutines

/-- A visit of the run loads the routine of a name. -/
def Run.LoadsName (r : Run) (n : String) : Prop :=
  ∃ v ∈ r.visits, v.name = n ∧ ∃ source parsed record d, v.Loads source parsed record d

/-- A visit of some run of a history loads a routine, and no later run does so again. -/
structure LastLoad (runs : List Run) (n : String) (q : Run) (v : Visit) (source : Source)
    (parsed : ParsedRoutine) (record : RoutineRecord) (d : InMemory) : Prop where
  last : ∃ newer older, runs = newer ++ q :: older ∧ ∀ r ∈ newer, ¬ r.LoadsName n
  visit : v ∈ q.visits
  name : v.name = n
  loads : v.Loads source parsed record d

/-- The text that is sent for each source that a run loads declares first what the source does. -/
def Run.KeepsSignatures (r : Run) : Prop :=
  ∀ v ∈ r.visits, ∀ source parsed record d, v.Loads source parsed record d →
    Signature.find? (source.statement parsed) = Signature.find? source.text

/-- A record tells the truth: the routine of its name is of its kind and was created with the text
    and in the session of the last load, which made the record. -/
def Truthful (runs : List Run) (routine : Option StoredRoutine) (n : String)
    (record : RoutineRecord) : Prop :=
  record.name = n ∧ ∃ q v source parsed d, LastLoad runs n q v source parsed record d ∧
    routine = some ⟨record.kind, source.statement parsed, q.session⟩

/-- A run that does not load the routine leaves its last load where it is. -/
theorem LastLoad.cons {runs : List Run} {n : String} {q r : Run} {v : Visit} {source : Source}
    {parsed : ParsedRoutine} {record : RoutineRecord} {d : InMemory}
    (h : LastLoad runs n q v source parsed record d) (hr : ¬ r.LoadsName n) :
    LastLoad (r :: runs) n q v source parsed record d := by
  obtain ⟨newer, older, rfl, hnewer⟩ := h.last
  refine ⟨⟨r :: newer, older, rfl, fun w hw => ?_⟩, h.visit, h.name, h.loads⟩
  rcases List.mem_cons.1 hw with rfl | hw
  · exact hr
  · exact hnewer w hw

/-- A load whose text keeps its signature leaves the routine as its record says. -/
theorem Visit.Loads.routineAfter? {v : Visit} (hv : v.Canonical) {source : Source}
    {parsed : ParsedRoutine} {record : RoutineRecord} {d : InMemory}
    (h : v.Loads source parsed record d)
    (hkeeps : Signature.find? (source.statement parsed) = Signature.find? source.text) :
    v.routineAfter? v.name =
      some ⟨record.kind, source.statement parsed, v.setting.session⟩ := by
  obtain ⟨-, -, hfind, -, -⟩ := Loading.parse_eq_ok h.parse
  have hcreates : v.Creates parsed.signature (source.statement parsed) :=
    ⟨source, parsed, d, h.toInstalls, rfl, hkeeps.trans hfind⟩
  have hafter := hcreates.routineAfter? hv
  rw [h.signature_name] at hafter
  rw [hafter, h.recordOf.kind]

/-- A run after which a record is there either has made it or has found it there. -/
theorem Truthful.step {r : Run} {older : List Run} {n : String} {record : RoutineRecord}
    {record₀ : Option RoutineRecord} {routine₀ routine₁ : Option StoredRoutine}
    (hcompletes : r.Completes) (hkeeps : r.KeepsSignatures)
    (hchange : r.Change n record₀ (some record) routine₀ routine₁)
    (hbefore : ∀ m, record₀ = some m → Truthful older routine₀ n m) :
    Truthful (r :: older) routine₁ n record := by
  rcases hchange.kept_or_loaded with ⟨hrecord, hkept⟩ | ⟨-, v, hv, hn, source, parsed, d, hload⟩
  -- the source is not loaded: record and routine are those of the run before
  · obtain ⟨hskips, hroutine⟩ := hkept hcompletes
    obtain ⟨hname, q, v, source, parsed, d, hlast, rfl⟩ := hbefore record hrecord
    have hr : ¬ r.LoadsName n := by
      rintro ⟨u, hu, hun, source', parsed', record', d', hload⟩
      exact hload.not_skips (hskips u hu hun)
    exact ⟨hname, q, v, source, parsed, d, hlast.cons hr, hroutine.of_some⟩
  -- the load has created the routine, and later sources cannot replace it
  · have hcreated := hload.routineAfter? (Run.canonical_of_mem hv)
      (hkeeps v hv source parsed record d hload)
    have hsession : v.setting.session = r.session := by
      rw [(Run.setting_of_mem_visits hv).1]
      rfl
    have hroutine := (hchange.left hv hn).2
    rw [hn, hsession] at hcreated
    rw [hcreated] at hroutine
    exact ⟨hload.record_name.trans hn, r, v, source, parsed, d,
      ⟨⟨[], older, rfl, nofun⟩, hv, hn, hload⟩, hroutine.of_some⟩

namespace History

variable {path : Path} {r : Run} {older : List Run}

theorem truthful {n : String} (h : History path (r :: older))
    (hok : ∀ q ∈ r :: older, q.Completes) (hkeeps : ∀ q ∈ r :: older, q.KeepsSignatures) :
    ∀ m, (keptRecords (r :: older)).get? n = some m →
      Truthful (r :: older) (r.outcome.session.database.routines.get? n) n m := by
  refine h.invariant (P := fun runs record routine => (∀ q ∈ runs, q.Completes) →
    (∀ q ∈ runs, q.KeepsSignatures) → ∀ m, record = some m → Truthful runs routine n m)
    ?_ ?_ hok hkeeps
  · intro routine _ _ m hm
    cases hm
  · intro q runs record record' routine routine' hbefore hchange hok hkeeps m hm
    subst hm
    apply Truthful.step (hok q List.mem_cons_self) (hkeeps q List.mem_cons_self) hchange
    exact hbefore (fun p hp => hok p (List.mem_cons_of_mem _ hp))
      fun p hp => hkeeps p (List.mem_cons_of_mem _ hp)

/-- After every run of a history of runs that complete, each record under the path of the records
    carries the name under which it is kept, and the database holds the routine of this name as
    the load that made the record has created it. -/
theorem records_truthful (h : History path (r :: older))
    (hok : ∀ q ∈ r :: older, q.Completes) (hkeeps : ∀ q ∈ r :: older, q.KeepsSignatures) :
    ∃ store, Store.load r.outcome.files path = .ok store ∧ ∀ n m, store.get? n = some m →
      m.name = n ∧ ∃ q v source parsed d, LastLoad (r :: older) n q v source parsed m d ∧
        r.outcome.session.database.routines.get? n =
          some ⟨m.kind, source.statement parsed, q.session⟩ := by
  have hpath := h.recordsPath
  have hcompletes := hok r List.mem_cons_self
  refine ⟨⟨path, r.records⟩, ?_, fun n m hm => ?_⟩
  · subst hpath
    exact hcompletes.load ⟨rfl, rfl⟩
  · have hkept : (keptRecords (r :: older)).get? n = some m := by
      rw [keptRecords, if_pos hcompletes]
      exact hm
    exact h.truthful hok hkeeps m hkept

end History

/-! ### Two runs on a source each -/

/-- The text of a procedure with a placeholder. -/
def greetingText : String :=
  "create procedure greeting()\n-- type: none\nbegin\nselect '@GREETING@';\nend\n"

/-- The text of a procedure without placeholders. -/
def farewellText : String :=
  "create procedure farewell()\n-- type: none\nbegin\nend\n"

/-- Both sources. -/
def greetingFiles : FileTree :=
  ((FileTree.empty 2000).add ⟨"/greeting.psql"⟩ greetingText.toUTF8 1000).add
    ⟨"/farewell.psql"⟩ farewellText.toUTF8 1000

/-- A run that loads the first source. -/
def greetingRun : Run where
  config := sampleConfig [("GREETING", "hello")]
  listed := [⟨"/greeting.psql"⟩]
  files := greetingFiles
  database := InMemory.empty

/-- The next run loads the second source; the placeholder of the first one has another value. -/
def greetingAgain : Run :=
  greetingRun.next (sampleConfig [("GREETING", "good day")]) [⟨"/farewell.psql"⟩]

/-- The text that is sent for a source of a run declares first what the source does. -/
def Run.keepsSignature (r : Run) (path : Path) : Bool :=
  match readSource r.files path with
  | .error _ => true
  | .ok source =>
    match source.parse r.table with
    | .error _ => true
    | .ok parsed => Signature.find? (source.statement parsed) == Signature.find? source.text

/-- Whether a run keeps all signatures can be seen from its sources. -/
theorem Run.keepsSignatures_of_all {r : Run} (h : r.sources.all r.keepsSignature = true) :
    r.KeepsSignatures := by
  intro v hv source parsed record d hload
  obtain ⟨hread, hparse⟩ := source_of_installs hv hload.toInstalls
  have hsource := (mem_visited.1 (setting_of_mem_visits hv).2).1
  have hkeeps := List.all_eq_true.1 h v.path hsource
  rw [Run.keepsSignature, hread] at hkeeps
  simp only [hparse, beq_iff_eq] at hkeeps
  exact hkeeps

/-- The first run completes and keeps a record of the greeting, and no signature changes. -/
theorem greetingRun_completes : greetingRun.Completes ∧
    (greetingRun.records.get? "greeting").isSome ∧
      greetingRun.sources.all greetingRun.keepsSignature = true := by
  decide +kernel

/-- The second run loads the farewell and leaves the greeting, whose source is not in its list. -/
theorem greetingAgain_ending :
    (greetingAgain.ending? ⟨greetingAgain.recordsPath, greetingRun.records⟩).any
        (fun (result, d) => result.toOption.any (fun report => report.loaded == ["farewell"]) &&
          (d.routines.get? "greeting").isSome) = true ∧
      greetingAgain.sources.all greetingAgain.keepsSignature = true := by
  decide +kernel

/-- The two runs follow each other, under two values of the constant. -/
theorem greeting_history : History ⟨"/routines.json"⟩ [greetingAgain, greetingRun] := by
  have hfirst : History ⟨"/routines.json"⟩ [greetingRun] := .first rfl (by decide +kernel)
  exact hfirst.next (Run.next_follows _ rfl) greetingRun_completes.1.not_unveils

/-- What the second run reports, and that the database still holds the greeting. -/
theorem greetingAgain_outcome :
    (∃ report, greetingAgain.outcome.result = .ok report ∧ report.loaded = ["farewell"]) ∧
      (greetingAgain.outcome.session.database.routines.get? "greeting").isSome := by
  obtain ⟨⟨result, d⟩, hending, hends⟩ := (Option.any_eq_true _ _).1 greetingAgain_ending.1
  have hfollows : greetingAgain.Follows greetingRun := Run.next_follows _ rfl
  obtain ⟨hresult, rfl⟩ := hfollows.outcome_of_ending? greetingRun_completes.1 hending
  simp only [Bool.and_eq_true, Option.any_eq_true, beq_iff_eq] at hends
  obtain ⟨⟨report, hreport, hloaded⟩, hholds⟩ := hends
  obtain rfl := Run.ok_of_toOption hreport
  exact ⟨⟨report, hresult, hloaded⟩, hholds⟩

/-- The conditions can be met: what the first run has loaded stays as its record says, although the
    placeholder has another value in the second run. -/
theorem records_truthful_greeting :
    (greetingRun.records.get? "greeting").isSome ∧
    (∃ report, greetingAgain.outcome.result = .ok report ∧ report.loaded = ["farewell"]) ∧
    (greetingAgain.outcome.session.database.routines.get? "greeting").isSome ∧
    ∃ store, Store.load greetingAgain.outcome.files ⟨"/routines.json"⟩ = .ok store ∧
      ∀ n m, store.get? n = some m →
        m.name = n ∧ ∃ q v source parsed d,
          LastLoad [greetingAgain, greetingRun] n q v source parsed m d ∧
          greetingAgain.outcome.session.database.routines.get? n =
            some ⟨m.kind, source.statement parsed, q.session⟩ := by
  obtain ⟨hfirst, hrecord, hkeeps⟩ := greetingRun_completes
  obtain ⟨⟨report, hresult, hloaded⟩, hholds⟩ := greetingAgain_outcome
  refine ⟨hrecord, ⟨report, hresult, hloaded⟩, hholds, greeting_history.records_truthful ?_ ?_⟩
  · rintro q (_ | ⟨_, _ | ⟨_, ⟨⟩⟩⟩)
    · exact ⟨report, hresult⟩
    · exact hfirst
  · rintro q (_ | ⟨_, _ | ⟨_, ⟨⟩⟩⟩)
    · exact Run.keepsSignatures_of_all greetingAgain_ending.2
    · exact Run.keepsSignatures_of_all hkeeps

end StoredRoutines
