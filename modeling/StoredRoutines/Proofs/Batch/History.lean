import StoredRoutines.Proofs.Batch.Run

/-!
# Histories

Runs that follow one another keep their records at one path, and nobody else changes the records
or the routines of the database. Everything else may change between them, and runs may fail.

## Main definitions

- `Run.Follows` — a run that finds what another one has left
- `History` — runs that follow one another, the latest one first
- `keptRecords` — the records of the latest run that has completed

## Main results

- `History.load` — a run finds these records
- `History.change` — what a run does to the records and the routines that it finds
- `History.invariant` — what every change preserves holds at the end of a history
-/

namespace StoredRoutines

/-- A run finds the records and the routines as the previous one has left them. -/
structure Run.Follows (r q : Run) : Prop where
  path : r.recordsPath = q.recordsPath
  files : FileTree.SameAt q.recordsPath q.outcome.files r.files
  routines : r.database.routines = q.outcome.session.database.routines

/-- A run on what another one has left. -/
def Run.next (q : Run) (config : Config) (listed : List Path) : Run :=
  ⟨config, listed, q.outcome.files, q.outcome.session.database⟩

/-- A run on what another one has left finds its records and its routines. -/
theorem Run.next_follows {q : Run} {config : Config} (listed : List Path)
    (h : config.loader.recordsPath = q.recordsPath) : (q.next config listed).Follows q :=
  ⟨h, ⟨rfl, rfl⟩, rfl⟩

/-- A run behind a completed one ends as it does on the records of that run. -/
theorem Run.Follows.outcome_of_ending? {r q : Run} (h : r.Follows q) (hq : q.Completes)
    {result : Except StoreError Report} {d : InMemory}
    (hending : r.ending? ⟨r.recordsPath, q.records⟩ = some (result, d)) :
    r.outcome.result = result.mapError RunError.store ∧ r.outcome.session.database = d := by
  have hload := hq.load h.files
  rw [← h.path] at hload
  exact Run.outcome_of_ending? hload hending

/-- Runs that follow one another, the latest one first. Before the first one there is no file
    under the path of the records, and no run brings one to light that others have put there. There
    are no links in the trees of the runs, so what one run has saved under the path, the next one
    finds there. -/
inductive History (path : Path) : List Run → Prop where
  | first {r : Run} (hpath : r.recordsPath = path) (habsent : r.files.doesExist path = false) :
      History path [r]
  | next {r q : Run} {older : List Run} (h : History path (q :: older)) (hr : r.Follows q)
      (hq : ¬ q.Unveils) : History path (r :: q :: older)

/-- The records in the file after a history: those of the latest run that has completed. -/
def keptRecords : List Run → SortedMap RoutineRecord
  | [] => .empty
  | r :: older => if r.Completes then r.records else keptRecords older

namespace History

variable {path : Path} {r : Run} {older : List Run}

theorem recordsPath (h : History path (r :: older)) : r.recordsPath = path := by
  induction older generalizing r with
  | nil =>
    cases h with
    | first hpath _ => exact hpath
  | cons q older ih =>
    cases h with
    | next h hr _ => exact hr.path.trans (ih h)

/-- The records that the latest run finds are those of the latest run before it that has
    completed. -/
theorem load (h : History path (r :: older)) {store : Store}
    (hload : Store.load r.files path = .ok store) : store = ⟨path, keptRecords older⟩ := by
  induction older generalizing r store with
  | nil =>
    cases h with
    | first _ habsent =>
      rw [Store.load_of_absent habsent] at hload
      exact (Except.ok.inj hload).symm
  | cons q older ih =>
    cases h with
    | next h hr hq =>
      have hpath := h.recordsPath
      have hsame := Store.load_of_sameAt hr.files
      subst hpath
      rw [keptRecords]
      by_cases hcompletes : q.Completes
      · rw [if_pos hcompletes]
        have hkept := hcompletes.load hr.files
        exact Except.ok.inj (hload.symm.trans hkept)
      · -- a run that has failed has left the file to the one before it
        rw [if_neg hcompletes]
        apply ih h
        apply Run.load_of_not_completes hcompletes hq
        exact hsame.symm.trans hload

/-- What the latest run of a history does to a record and to a routine. -/
theorem change (h : History path (r :: older)) (n : String) :
    r.Change n ((keptRecords older).get? n) ((keptRecords (r :: older)).get? n)
      (r.database.routines.get? n) (r.outcome.session.database.routines.get? n) := by
  refine r.change (fun store hload => ?_) n
  rw [h.recordsPath] at hload
  rw [h.load hload]

/-- What holds before a history and is preserved by what runs do to the record and the routine of
    a name holds at the end of the history. -/
theorem invariant {n : String} {P : List Run → Option RoutineRecord → Option StoredRoutine → Prop}
    (hstart : ∀ routine, P [] none routine)
    (hstep : ∀ r older record record' routine routine', P older record routine →
      Run.Change r n record record' routine routine' → P (r :: older) record' routine')
    (h : History path (r :: older)) :
    P (r :: older) ((keptRecords (r :: older)).get? n)
      (r.outcome.session.database.routines.get? n) := by
  apply hstep _ _ _ _ _ _ _ (h.change n)
  induction older generalizing r with
  | nil => exact hstart _
  | cons q older ih =>
    cases h with
    | next h hr _ =>
      -- the run starts with the routines that the one before has left
      rw [hr.routines]
      exact hstep _ _ _ _ _ _ (ih h) (h.change n)

end History

end StoredRoutines
