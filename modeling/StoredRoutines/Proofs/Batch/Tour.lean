import StoredRoutines.Proofs.Batch.Visit

/-!
# Tours

A tour visits the sources of a list in order. The visits before and after that of one routine are
visits of others, which leave its record alone and cannot replace it in the database.

## Main definitions

- `tour`, `visits` — the end of a tour, and the visits it consists of
- `Others` — what the visits of other sources do to a routine
- `LastCreation` — the last visit that has created a routine

## Main results

- `tour_others` — a tour without the source of a routine
- `tour_created` — where a routine comes from that is there at the end of a tour
- `mem_unchanged_tour`, `mem_loaded_tour` — the report of a tour
-/

namespace StoredRoutines

variable (setting : RunSetting)

/-- Sources that are loaded one after the other. -/
def tour (start : Progress × Session InMemory) (paths : List Path) : Progress × Session InMemory :=
  paths.foldl (fun (p, s) path => loadPath inMemory setting p s path) start

/-- The visits of a tour, each with what it finds. -/
def visits : Progress × Session InMemory → List Path → List Visit
  | _, [] => []
  | (p, s), path :: rest =>
    let v : Visit := ⟨setting, p, s, path⟩
    v :: visits v.after rest

/-- The routine of a name in a database that a tour has reached. -/
def routineAt (at_ : Progress × Session InMemory) (n : String) : Option StoredRoutine :=
  at_.2.database.routines.get? n

/-- The record of a name in a store that a tour has reached. -/
def recordAt (at_ : Progress × Session InMemory) (n : String) : Option RoutineRecord :=
  at_.1.store.get? n

/-- What visits of other sources may do to a routine: nothing, or create it where there is none. -/
def Others (vs : List Visit) (n : String) (session : SessionSettings)
    (before after : Option StoredRoutine) : Prop :=
  after = before ∨ before = none ∧ ∃ v ∈ vs, v.name ≠ n ∧
    ∃ kind text, v.Creates ⟨kind, n⟩ text ∧ after = some ⟨kind, text, session⟩

section

variable {setting} {start : Progress × Session InMemory}

theorem tour_cons (path : Path) (rest : List Path) :
    tour setting start (path :: rest) =
      tour setting (Visit.after ⟨setting, start.1, start.2, path⟩) rest := rfl

theorem visits_cons (path : Path) (rest : List Path) :
    visits setting start (path :: rest) =
      ⟨setting, start.1, start.2, path⟩ ::
        visits setting (Visit.after ⟨setting, start.1, start.2, path⟩) rest := rfl

/-- A tour of two lists is a tour of the second one behind the first one. -/
theorem tour_append (paths rest : List Path) :
    tour setting start (paths ++ rest) = tour setting (tour setting start paths) rest :=
  List.foldl_append

theorem visits_append (paths rest : List Path) :
    visits setting start (paths ++ rest) =
      visits setting start paths ++ visits setting (tour setting start paths) rest := by
  induction paths generalizing start with
  | nil => rfl
  | cons path paths ih =>
    rw [List.cons_append, visits_cons, visits_cons, tour_cons, ih, List.cons_append]

theorem path_of_mem_visits {paths : List Path} {v : Visit} (h : v ∈ visits setting start paths) :
    v.setting = setting ∧ v.path ∈ paths := by
  induction paths generalizing start with
  | nil => cases h
  | cons path paths ih =>
    rw [visits_cons] at h
    rcases List.mem_cons.1 h with rfl | h
    · exact ⟨rfl, List.mem_cons_self⟩
    · exact ⟨(ih h).1, List.mem_cons_of_mem _ (ih h).2⟩

theorem canonical_of_mem_visits {paths : List Path} {v : Visit}
    (hstart : setting.session.CanonicalIn start.2.database)
    (h : v ∈ visits setting start paths) : v.Canonical := by
  induction paths generalizing start with
  | nil => cases h
  | cons path paths ih =>
    rw [visits_cons] at h
    rcases List.mem_cons.1 h with rfl | h
    · exact hstart
    · have hfirst : Visit.Canonical ⟨setting, start.1, start.2, path⟩ := hstart
      exact ih hfirst.after h

/-! ### Visits of other sources -/

namespace Others

variable {vs ws : List Visit} {n : String} {session : SessionSettings}
  {a b c : Option StoredRoutine}

theorem mono (h : Others vs n session a b) (hsub : ∀ v ∈ vs, v ∈ ws) : Others ws n session a b := by
  rcases h with h | ⟨ha, v, hv, h⟩
  · exact .inl h
  · exact .inr ⟨ha, v, hsub v hv, h⟩

theorem of_some {e : StoredRoutine} (h : Others vs n session (some e) b) : b = some e := by
  rcases h with h | ⟨h, -⟩
  · exact h
  · cases h

theorem trans (h : Others vs n session a b) (h' : Others vs n session b c) :
    Others vs n session a c := by
  rcases h with rfl | ⟨ha, v, hv, hne, kind, text, hcreates, hb⟩
  · exact h'
  · obtain rfl := (hb ▸ h').of_some
    exact .inr ⟨ha, v, hv, hne, kind, text, hcreates, rfl⟩

end Others

/-- A record that is not of a visited routine is left alone. -/
theorem record_tour {paths : List Path} {n : String} (hn : n ∉ paths.map Path.stem) :
    recordAt (tour setting start paths) n = recordAt start n := by
  induction paths generalizing start with
  | nil => rfl
  | cons path paths ih =>
    rw [List.map_cons, List.mem_cons, not_or] at hn
    rw [tour_cons, ih hn.2]
    exact Visit.record_of_ne _ hn.1

/-- A routine whose source is not visited stays, or is created by another source where there was
    none. -/
theorem tour_others {paths : List Path} {n : String}
    (hstart : setting.session.CanonicalIn start.2.database) (hn : n ∉ paths.map Path.stem) :
    Others (visits setting start paths) n setting.session (routineAt start n)
      (routineAt (tour setting start paths) n) := by
  induction paths generalizing start with
  | nil => exact .inl rfl
  | cons path paths ih =>
    rw [List.map_cons, List.mem_cons, not_or] at hn
    rw [tour_cons, visits_cons]
    let v : Visit := ⟨setting, start.1, start.2, path⟩
    have hfirst : Others [v] n setting.session (routineAt start n) (routineAt v.after n) := by
      rcases v.entry hstart n with h | ⟨h, -⟩ | ⟨⟨kind, name⟩, text, hcreates, hname, hfree, h⟩
      · exact .inl h
      · exact absurd h hn.1
      · obtain rfl : name = n := hname
        exact .inr ⟨hfree hn.1, v, List.mem_singleton_self v, Ne.symm hn.1, kind, text, hcreates, h⟩
    have hv : v.Canonical := hstart
    have hrest := ih hv.after hn.2
    refine (hfirst.mono fun w hw => ?_).trans (hrest.mono fun w hw => List.mem_cons_of_mem _ hw)
    exact List.mem_cons.2 (.inl (List.mem_singleton.1 hw))

theorem paths_visits (paths : List Path) :
    (visits setting start paths).map Visit.path = paths := by
  induction paths generalizing start with
  | nil => rfl
  | cons path paths ih => rw [visits_cons, List.map_cons, ih]

theorem names_visits (paths : List Path) :
    (visits setting start paths).map Visit.name = paths.map Path.stem := by
  have hnames := congrArg (List.map Path.stem) (@paths_visits setting start paths)
  rw [List.map_map] at hnames
  exact hnames

/-- Of the visits of a list, this one creates a routine of the name, and no later one does. -/
structure LastCreation (vs : List Visit) (n : String) (v : Visit) (kind : RoutineKind)
    (text : String) : Prop where
  creates : v.Creates ⟨kind, n⟩ text
  last : ∃ earlier later, vs = earlier ++ v :: later ∧ ∀ w ∈ later, ¬ w.CreatesName n

theorem LastCreation.mem {vs : List Visit} {n : String} {v : Visit} {kind : RoutineKind}
    {text : String} (h : LastCreation vs n v kind text) : v ∈ vs := by
  obtain ⟨earlier, later, rfl, -⟩ := h.last
  exact List.mem_append_right _ List.mem_cons_self

/-- A routine that is there at the end of a tour was there at its start, and no visit has created
    it, or it is as the last visit that creates it has left it. -/
theorem tour_created {paths : List Path} {n : String} {e : StoredRoutine}
    (hstart : setting.session.CanonicalIn start.2.database)
    (he : routineAt (tour setting start paths) n = some e) :
    (routineAt start n = some e ∧ ∀ v ∈ visits setting start paths, ¬ v.CreatesName n) ∨
      ∃ v kind text, LastCreation (visits setting start paths) n v kind text ∧
        e = ⟨kind, text, setting.session⟩ := by
  induction paths generalizing start with
  | nil => exact .inl ⟨he, nofun⟩
  | cons path paths ih =>
    rw [tour_cons] at he
    rw [visits_cons]
    let v : Visit := ⟨setting, start.1, start.2, path⟩
    have hv : v.Canonical := hstart
    -- the induction is on the list behind the first path, from what its visit has left
    rcases ih hv.after he with ⟨hafter, hnone⟩ | ⟨w, kind, text, ⟨hcreates, hlast⟩, rfl⟩
    · have hafter : v.routineAfter? n = some e := hafter
      -- if no later visit creates the routine, the first one may have been the last to do so
      by_cases hcreates : v.CreatesName n
      · obtain ⟨kind, text, hcreates⟩ := hcreates
        have hentry := hcreates.routineAfter? hv
        rw [hafter] at hentry
        exact .inr ⟨v, kind, text, ⟨hcreates, [], _, rfl, hnone⟩, Option.some.inj hentry⟩
      · refine .inl ⟨?_, fun w hw => ?_⟩
        · rcases v.entry hv n with h | ⟨-, -, h⟩ | ⟨⟨kind, name⟩, text, h, rfl, -⟩
          · exact h.symm.trans hafter
          · exact absurd (h.symm.trans hafter) nofun
          · exact absurd ⟨kind, text, h⟩ hcreates
        · rcases List.mem_cons.1 hw with rfl | hw
          · exact hcreates
          · exact hnone w hw
    · obtain ⟨earlier, later, hvisits, hlater⟩ := hlast
      exact .inr ⟨w, kind, text, ⟨hcreates, v :: earlier, later, by rw [hvisits]; rfl, hlater⟩, rfl⟩

/-- All statements of a tour are sent for sources that are not skipped. -/
theorem logged_tour (paths : List Path) :
    (Frame.logged fun sql => ∃ v ∈ visits setting start paths, ¬ v.Skips ∧
      InMemory.Sent v.name v.Text sql).rel start.2.database
        (tour setting start paths).2.database := by
  induction paths generalizing start with
  | nil => exact Frame.refl _ _
  | cons path paths ih =>
    rw [tour_cons, visits_cons]
    let v : Visit := ⟨setting, start.1, start.2, path⟩
    refine Frame.trans _ (Frame.logged_mono (fun sql h => ?_) v.logged_after)
      (Frame.logged_mono (fun sql h => ?_) ih)
    · exact ⟨v, List.mem_cons_self, h⟩
    · obtain ⟨w, hw, h⟩ := h
      exact ⟨w, List.mem_cons_of_mem _ hw, h⟩

theorem path_tour (paths : List Path) :
    (tour setting start paths).1.store.path = start.1.store.path := by
  induction paths generalizing start with
  | nil => rfl
  | cons path paths ih =>
    rw [tour_cons, ih]
    let v : Visit := ⟨setting, start.1, start.2, path⟩
    have hresult := v.result
    change v.after.1.store.path = v.progress.store.path
    generalize v.after.1 = p, v.after.2 = s at hresult ⊢
    cases hresult <;> rfl

/-! ### The report -/

/-- A visit reports its routine as unchanged exactly if it skips it. -/
theorem mem_unchanged_after (v : Visit) (n : String) :
    n ∈ v.after.1.report.unchanged ↔
      n ∈ v.progress.report.unchanged ∨ v.Skips ∧ v.name = n := by
  by_cases hskip : v.Skips
  · rw [v.after_of_skips hskip]
    simp [Progress.addUnchanged, hskip, eq_comm]
  · have hresult := v.result
    generalize v.after.1 = p, v.after.2 = s at hresult ⊢
    cases hresult with
    | skipped h => exact absurd h hskip
    | loaded h hs => simp [Progress.addLoaded, hskip]
    | refused h hs => simp [Progress.addFailed, hskip]
    | failed h hs => simp [Progress.addFailed, hskip]

/-- A visit reports its routine as loaded exactly if it loads it. -/
theorem mem_loaded_after (v : Visit) (n : String) :
    n ∈ v.after.1.report.loaded ↔ n ∈ v.progress.report.loaded ∨
      v.name = n ∧ ∃ source parsed record d, v.Loads source parsed record d := by
  constructor
  · have hresult := v.result
    -- the report is compared for each result that a visit can have
    generalize v.after.1 = p, v.after.2 = s at hresult ⊢
    cases hresult with
    | skipped h => exact .inl
    | loaded h hs =>
      intro hn
      rcases List.mem_append.1 hn with hn | hn
      · exact .inl hn
      · exact .inr ⟨(List.mem_singleton.1 hn).symm, _, _, _, _, h⟩
    | refused h hs => exact .inl
    | failed h hs => exact .inl
  · rintro (hn | ⟨rfl, source, parsed, record, d, h⟩)
    · have hresult := v.result
      generalize v.after.1 = p, v.after.2 = s at hresult ⊢
      cases hresult with
      | skipped h => exact hn
      | loaded h hs => exact List.mem_append_left _ hn
      | refused h hs => exact hn
      | failed h hs => exact hn
    · rw [h.progress_eq]
      exact List.mem_append_right _ (List.mem_singleton_self _)

/-- A tour reports as unchanged what was reported before and the routines whose visits skip them. -/
theorem mem_unchanged_tour (paths : List Path) (n : String) :
    n ∈ (tour setting start paths).1.report.unchanged ↔
      n ∈ start.1.report.unchanged ∨ ∃ v ∈ visits setting start paths, v.Skips ∧ v.name = n := by
  induction paths generalizing start with
  | nil => simp [tour, visits]
  | cons path paths ih =>
    rw [tour_cons, ih, mem_unchanged_after, visits_cons, List.exists_mem_cons_iff, or_assoc]

/-- A tour reports as loaded what was reported before and the routines whose visits load them. -/
theorem mem_loaded_tour (paths : List Path) (n : String) :
    n ∈ (tour setting start paths).1.report.loaded ↔
      n ∈ start.1.report.loaded ∨ ∃ v ∈ visits setting start paths,
        v.name = n ∧ ∃ source parsed record d, v.Loads source parsed record d := by
  induction paths generalizing start with
  | nil => simp [tour, visits]
  | cons path paths ih =>
    rw [tour_cons, ih, mem_loaded_after, visits_cons, List.exists_mem_cons_iff, or_assoc]

/-! ### The visit of a source -/

/-- The list around the source of a routine, if each routine has one source at most. -/
theorem split_at_stem {paths : List Path} {n : String} (hnodup : (paths.map Path.stem).Nodup)
    (h : n ∈ paths.map Path.stem) :
    ∃ before path after, paths = before ++ path :: after ∧ path.stem = n ∧
      n ∉ before.map Path.stem ∧ n ∉ after.map Path.stem := by
  obtain ⟨path, hpath, rfl⟩ := List.mem_map.1 h
  obtain ⟨before, after, rfl⟩ := List.append_of_mem hpath
  rw [List.map_append, List.map_cons] at hnodup
  obtain ⟨-, hafter, hdisjoint⟩ := List.nodup_append.1 hnodup
  refine ⟨before, path, after, rfl, rfl, fun hmem => ?_, (List.nodup_cons.1 hafter).1⟩
  exact hdisjoint _ hmem _ List.mem_cons_self rfl

end

end StoredRoutines
