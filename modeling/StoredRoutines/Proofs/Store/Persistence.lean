import StoredRoutines.Proofs.Store

/-!
# Records that persist

What is kept in the file of the records is the map of records, nothing less and nothing else. A
file that has been read and saved is read as before, and it is saved again in the same bytes.

## Main results

- `Store.save_again` — what has been saved can be saved again
- `Store.records_persist` — reading, saving and reading again
-/

namespace StoredRoutines

namespace Store

variable {s : Store} {t u v : FileTree}

/-- A directory that has been made is found to be there the next time. -/
theorem prepareDirectory_again (h : s.prepareDirectory t = (.ok (), v)) (hu : v.Spares u) :
    s.prepareDirectory u = (.ok (), u) := by
  unfold prepareDirectory at h ⊢
  cases hparent : s.path.parent? with
  | none => rfl
  | some parent =>
    simp only [hparent] at h ⊢
    split at h
    next made hmade =>
      cases h
      rw [FileTree.makeDirectories_again hmade hu]
    next => cases h

/-- Records that have been saved can be saved again. -/
theorem save_again (h : s.save t = (.ok (), u)) : ∃ v, s.save u = (.ok (), v) := by
  obtain ⟨made, written, hmade, hwritten, hmoved⟩ := steps_of_save h
  have hsame := (FileTree.alike_write? hwritten).trans (FileTree.alike_rename? hmoved)
  obtain ⟨w, v, hw, hv⟩ := FileTree.rename?_again hwritten hmoved (.refl u)
  refine ⟨v, ?_⟩
  rw [save, prepareDirectory_again hmade hsame.spares]
  simp only [replaceFile, hw, hv]

/-- Every map of records is read from its text as it was. Once it has been saved, the file consists
    of this text, and the records are loaded from it. Records that have been loaded from some file
    are loaded again after they have been saved, and saving them another time succeeds and writes
    the same bytes. -/
theorem records_persist :
    (∀ records : SortedMap RoutineRecord, Records.read? (Records.print records) = some records) ∧
    (∀ (s : Store) (t u : FileTree), s.save t = (.ok (), u) →
      u.content? s.path = some (Records.print s.records).toUTF8 ∧ load u s.path = .ok s) ∧
    ∀ (s : Store) (p : Path) (t t' u : FileTree), load t p = .ok s → s.save t' = (.ok (), u) →
      load u p = .ok s ∧
        ∃ v, s.save u = (.ok (), v) ∧ v.content? p = u.content? p ∧ load v p = .ok s := by
  have hsaved : ∀ (s : Store) (t u : FileTree), s.save t = (.ok (), u) →
      u.content? s.path = some (Records.print s.records).toUTF8 ∧ load u s.path = .ok s :=
    fun s t u h => ⟨content?_of_save h, load_of_save h ⟨rfl, rfl⟩⟩
  refine ⟨Records.read?_print, hsaved, fun s p t t' u hload hsave => ?_⟩
  obtain rfl := path_of_load hload
  obtain ⟨hu, hloadu⟩ := hsaved s t' u hsave
  obtain ⟨v, hv⟩ := save_again hsave
  obtain ⟨hcontent, hloadv⟩ := hsaved s u v hv
  exact ⟨hloadu, v, hv, hcontent.trans hu.symm, hloadv⟩

/-! ### A file without the member for the records -/

/-- The path of the file with the records. -/
def barePath : Path := ⟨"/etc/routines.json"⟩

/-- A file with an empty object, which holds no records. -/
def bareFiles : FileTree :=
  (FileTree.empty 2000).add barePath "{}".toUTF8 1000

/-- A record with a name, and with the marks of a list, that have to be escaped. -/
def quotedRecord : RoutineRecord where
  name := "\"\\\n"
  kind := .procedure
  designation := "none"
  returnType := none
  table := none
  parameters := []
  columns := none
  fields := none
  columnTypes := none
  timestamp := -1
  replace := .empty
  doc := ⟨"", "", []⟩
  listParameters := [⟨"ids", "int", '\x00', '"', '\\'⟩]

/-- The record, kept under its name. -/
def quotedRecords : SortedMap RoutineRecord :=
  .ofList [(quotedRecord.name, quotedRecord)]

theorem load_bareFiles : load bareFiles barePath = .ok ⟨barePath, .empty⟩ := by
  have hrecords : (load bareFiles barePath).toOption.map (·.records) = some .empty := by
    decide +kernel
  cases hload : load bareFiles barePath with
  | error e =>
    rw [hload] at hrecords
    cases hrecords
  | ok s =>
    rw [hload] at hrecords
    obtain ⟨path, records⟩ := s
    obtain rfl : path = barePath := path_of_load hload
    obtain rfl : records = .empty := Option.some.inj hrecords
    rfl

/-- The conditions can be met: the file is rewritten with the member, and then with records. -/
theorem records_persist_bare :
    (∃ u v, save ⟨barePath, .empty⟩ bareFiles = (.ok (), u) ∧
      load u barePath = .ok ⟨barePath, .empty⟩ ∧ save ⟨barePath, .empty⟩ u = (.ok (), v) ∧
      v.content? barePath = u.content? barePath) ∧
    ∃ u, save ⟨barePath, quotedRecords⟩ bareFiles = (.ok (), u) ∧
      load u barePath = .ok ⟨barePath, quotedRecords⟩ := by
  have hempty : save ⟨barePath, .empty⟩ bareFiles = (.ok (), _) :=
    Prod.ext (by decide +kernel) rfl
  have hquoted : save ⟨barePath, quotedRecords⟩ bareFiles = (.ok (), _) :=
    Prod.ext (by decide +kernel) rfl
  obtain ⟨-, hsaved, hagain⟩ := records_persist
  obtain ⟨hload, v, hv, hsame, -⟩ := hagain _ _ _ _ _ load_bareFiles hempty
  exact ⟨⟨_, v, hempty, hload, hv, hsame⟩, _, hquoted, (hsaved _ _ _ hquoted).2⟩

end Store

end StoredRoutines
