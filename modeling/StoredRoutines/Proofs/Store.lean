import StoredRoutines.Proofs.FileTree.Alike
import StoredRoutines.Proofs.FileTree.Content
import StoredRoutines.Proofs.FileTree.Named
import StoredRoutines.Proofs.Record.RoundTrip
import StoredRoutines.Store

/-!
# Saving and loading records

Records that have been saved are loaded again as they were.

## Main definitions

- `FileTree.SameAt` — two trees that show the same under a path

## Main results

- `Store.steps_of_save`, `Store.steps_of_failed_save` — the steps of a save
- `Store.content?_of_save` — the bytes under the path of records that have been saved
- `Store.load_of_save` — the records that are loaded from them
- `Store.files_of_failed_save` — the files after records could not be saved
- `Store.named_save` — the names in the tree after a save
- `Store.sameAt_of_failed_save`, `Store.content?_of_failed_save` — records that cannot be saved
  leave what is under their path
-/

namespace StoredRoutines

/-- Two trees that show the same text under a path, or no file. -/
structure FileTree.SameAt (p : Path) (t u : FileTree) : Prop where
  exist : u.doesExist p = t.doesExist p
  text : u.readText? p = t.readText? p

namespace FileTree

theorem SameAt.symm {p : Path} {t u : FileTree} (h : SameAt p t u) : SameAt p u t :=
  ⟨h.exist.symm, h.text.symm⟩

theorem SameAt.trans {p : Path} {t u v : FileTree} (h : SameAt p t u) (h' : SameAt p u v) :
    SameAt p t v :=
  ⟨h'.exist.trans h.exist, h'.text.trans h.text⟩

/-- What is kept in the tree is read alike at a path that was not changed. -/
theorem Keeps.sameAt {changed : Location → Prop} {p : Path} {t u : FileTree} {text : String}
    (h : Keeps changed t u) (htext : t.readText? p = some text)
    (hp : ∀ l, t.locate? p = some l → ¬ changed l) : SameAt p t u := by
  obtain ⟨l, hl, -⟩ := Option.bind_eq_some_iff.1 htext
  refine ⟨?_, (h.readText? htext hp).trans htext.symm⟩
  unfold doesExist
  rw [hl, h.locate? hl]

end FileTree

namespace Store

/-- The records depend on what is seen under their path only. -/
theorem load_of_sameAt {t u : FileTree} {p : Path} (h : FileTree.SameAt p t u) :
    load u p = load t p := by
  unfold load
  rw [h.exist, h.text]

/-- A store without a file is empty. -/
theorem load_of_absent {t : FileTree} {p : Path} (h : t.doesExist p = false) :
    load t p = .ok ⟨p, .empty⟩ := by
  rw [load, h]
  rfl

theorem path_of_load {t : FileTree} {p : Path} {s : Store} (h : load t p = .ok s) :
    s.path = p := by
  unfold load at h
  split at h
  · split at h
    · cases h
    · split at h
      · cases h
      · cases h
        rfl
  · cases h
    rfl

theorem fromUTF8?_toUTF8 (text : String) : String.fromUTF8? text.toUTF8 = some text := by
  unfold String.fromUTF8?
  exact dif_pos text.isValidUTF8

/-- The steps of a save that succeeds. -/
theorem steps_of_save {s : Store} {t u : FileTree} (h : s.save t = (.ok (), u)) :
    ∃ made written, s.prepareDirectory t = (.ok (), made) ∧
      made.write? s.temporaryPath s.text.toUTF8 = some written ∧
      written.rename? s.temporaryPath s.path = some u := by
  unfold save at h
  split at h
  next => cases h
  next made hmade =>
  unfold replaceFile at h
  split at h
  next => cases h
  next written hwritten =>
  split at h
  next => cases h
  next moved hmoved =>
  cases h
  exact ⟨made, written, hmade, hwritten, hmoved⟩

/-- The steps of a save that fails: the directory is not made, or the sibling file is not written,
    or it is not moved. -/
theorem steps_of_failed_save {s : Store} {t u : FileTree} {e : StoreError}
    (h : s.save t = (.error e, u)) :
    (∃ parent, e = .directoryNotMade parent ∧ u = (s.prepareDirectory t).2) ∨
      (e = .notWritten s.temporaryPath ∧ u = (s.prepareDirectory t).2) ∨
      (e = .notReplaced s.path ∧
        (s.prepareDirectory t).2.write? s.temporaryPath s.text.toUTF8 = some u) := by
  unfold save at h
  split at h
  next c made hmade =>
    cases h
    -- the directory has not been made
    refine .inl ?_
    rw [hmade]
    unfold prepareDirectory at hmade
    split at hmade
    next => cases hmade
    next parent hparent =>
    split at hmade
    next => cases hmade
    next =>
      cases hmade
      exact ⟨parent, rfl, rfl⟩
  next made hmade =>
    -- the directory is there, and one of the two steps of the replacement fails
    refine .inr ?_
    rw [hmade]
    unfold replaceFile at h
    split at h
    next =>
      cases h
      exact .inl ⟨rfl, rfl⟩
    next written hwritten =>
    split at h
    next =>
      cases h
      exact .inr ⟨rfl, hwritten⟩
    next => cases h

/-- The file of the records consists of their text once they have been saved. -/
theorem content?_of_save {s : Store} {t u : FileTree} (h : s.save t = (.ok (), u)) :
    u.content? s.path = some s.text.toUTF8 := by
  obtain ⟨made, written, -, hwritten, hmoved⟩ := steps_of_save h
  obtain ⟨-, l, hl, -, hn⟩ := FileTree.write?_eq_some hwritten
  obtain ⟨-, k, hk, hn⟩ := FileTree.rename?_eq_some hmoved hl hn
  exact FileTree.content?_eq_some.2 ⟨k, _, hk, FileTree.fileAt?_of_node? hn⟩

/-- The text of the records is read under their path once they have been saved. -/
theorem save_eq_ok {s : Store} {t u : FileTree} (h : s.save t = (.ok (), u)) :
    u.doesExist s.path = true ∧ u.readText? s.path = some s.text := by
  have hcontent := content?_of_save h
  constructor
  · obtain ⟨l, modified, hl, -⟩ := FileTree.content?_eq_some.1 hcontent
    rw [FileTree.doesExist, hl]
    rfl
  · rw [FileTree.readText?_eq, hcontent, Option.bind_some]
    exact fromUTF8?_toUTF8 s.text

/-- Records that have been saved are loaded from every tree that shows them under their path. -/
theorem load_of_save {s : Store} {t u v : FileTree} (h : s.save t = (.ok (), u))
    (hv : FileTree.SameAt s.path u v) : load v s.path = .ok s := by
  obtain ⟨hexist, htext⟩ := save_eq_ok h
  rw [load, hv.exist, hv.text, hexist, htext]
  simp only [text, Records.read?_print, if_true]

/-- Making the directory of the records leaves all files. -/
theorem prepareDirectory_keeps (s : Store) (t : FileTree) :
    FileTree.Keeps (fun _ => False) t (s.prepareDirectory t).2 ∧
      ∀ l, (s.prepareDirectory t).2.fileAt? l = t.fileAt? l := by
  unfold prepareDirectory
  cases s.path.parent? with
  | none => exact ⟨.refl _ _, fun _ => rfl⟩
  | some parent =>
    have hkeeps := FileTree.keeps_makeDirectories (fun _ => False) t parent
    have hfiles := FileTree.fileAt?_makeDirectories t parent
    simp only
    generalize t.makeDirectories parent = made at hkeeps hfiles ⊢
    obtain ⟨_ | _, t'⟩ := made <;> exact ⟨hkeeps, hfiles⟩

/-- Saving records gives names to nothing but directories on their path and their two files. -/
theorem named_save {t : FileTree} (h : t.Named) (s : Store) : (s.save t).2.Named := by
  have hmade : (s.prepareDirectory t).2.Named := by
    unfold prepareDirectory
    cases s.path.parent? with
    | none => exact h
    | some parent =>
      have hparent := h.makeDirectories parent
      simp only
      generalize t.makeDirectories parent = made at hparent
      obtain ⟨_ | _, t'⟩ := made <;> exact hparent
  cases hsave : s.save t with
  | mk result u =>
    cases result with
    | error e =>
      rcases steps_of_failed_save hsave with ⟨-, -, rfl⟩ | ⟨-, rfl⟩ | ⟨-, hwritten⟩
      · exact hmade
      · exact hmade
      · exact hmade.write? hwritten
    | ok done =>
      obtain ⟨made, written, hprepared, hwritten, hmoved⟩ := steps_of_save hsave
      rw [hprepared] at hmade
      exact (hmade.write? hwritten).rename? hmoved

/-- Records that cannot be saved leave all files but the sibling file, which is not the file under
    their path. -/
theorem files_of_failed_save {s : Store} {t u : FileTree} {e : StoreError}
    (h : s.save t = (.error e, u)) :
    ∃ changed, FileTree.Keeps changed t u ∧ (∀ l, ¬ changed l → u.fileAt? l = t.fileAt? l) ∧
      ∀ l, t.locate? s.path = some l ∨ u.locate? s.path = some l → ¬ changed l := by
  -- the directory of the records and the sibling file are all that may have been touched
  obtain ⟨hkept, hsame⟩ := s.prepareDirectory_keeps t
  rcases steps_of_failed_save h with ⟨parent, -, rfl⟩ | ⟨-, rfl⟩ | ⟨-, hwritten⟩
  · exact ⟨_, hkept, fun l _ => hsame l, fun _ _ => id⟩
  · exact ⟨_, hkept, fun l _ => hsame l, fun _ _ => id⟩
  · obtain ⟨slot, hslot, hkeeps⟩ := FileTree.write?_keeps hwritten
    refine ⟨_, hkept.trans hkeeps fun _ => id, fun l hl => ?_, ?_⟩
    · exact (FileTree.write?_files hwritten hslot hl).trans (hsame l)
    · rintro l (hl | hl)
      · exact FileTree.location_ne_of_slot? (hkept.locate? hl) hslot (by decide) (by decide)
      · exact FileTree.location_ne_of_slot? hl (hkeeps.spares.slot? hslot) (by decide) (by decide)

/-- Records that cannot be saved leave those that are there as they were. -/
theorem sameAt_of_failed_save {s : Store} {t u : FileTree} {e : StoreError} {text : String}
    (h : s.save t = (.error e, u)) (htext : t.readText? s.path = some text) :
    FileTree.SameAt s.path t u := by
  obtain ⟨changed, hkeeps, -, hchanged⟩ := files_of_failed_save h
  exact hkeeps.sameAt htext fun l hl => hchanged l (.inl hl)

/-- The same bytes are read under the path of records that cannot be saved, unless the path has come
    to lead to another file. -/
theorem content?_of_failed_save {s : Store} {t u : FileTree} {e : StoreError}
    (h : s.save t = (.error e, u)) :
    u.content? s.path = t.content? s.path ∨ t.ComesToLight u s.path := by
  obtain ⟨changed, hkeeps, hfiles, hchanged⟩ := files_of_failed_save h
  exact hkeeps.content?_eq_or hfiles hchanged

end Store

end StoredRoutines
