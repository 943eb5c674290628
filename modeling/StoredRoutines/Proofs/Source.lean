import StoredRoutines.Discovery
import StoredRoutines.Proofs.FileTree

/-!
# Reading sources

A source that has been read carries the name of the file it was asked for, wherever its canonical
path leads.

## Main results

- `Path.fileName?_of_pieces` — the name at the end of a path
- `FileTree.piece_of_file` — the way to a file ends in its name
- `stem_of_readSource`, `mtime_of_readSource` — what a source has from its path
-/

namespace StoredRoutines

namespace Path

theorem pieces_ne_nil (s : List Char) : pieces s ≠ [] := by
  cases s with
  | nil => simp [pieces]
  | cons c rest =>
    by_cases hc : c = '/'
    · subst hc
      simp [pieces]
    · rw [pieces.eq_3 _ _ (by simpa using hc)]
      split <;> simp

theorem pieces_cons_of_ne {c : Char} (hc : c ≠ '/') {s p : List Char} {ps : List (List Char)}
    (h : pieces s = p :: ps) : pieces (c :: s) = (c :: p) :: ps := by
  rw [pieces.eq_3 _ _ (by simpa using hc), h]

/-- A slash ends a piece. -/
theorem pieces_append (s t : List Char) : pieces (s ++ '/' :: t) = pieces s ++ pieces t := by
  induction s with
  | nil => rfl
  | cons c s ih =>
    by_cases hc : c = '/'
    · subst hc
      change [] :: pieces (s ++ '/' :: t) = [] :: (pieces s ++ pieces t)
      rw [ih]
    · cases hs : pieces s with
      | nil => exact absurd hs (pieces_ne_nil s)
      | cons p ps =>
        rw [hs] at ih
        rw [List.cons_append, pieces_cons_of_ne hc ih, pieces_cons_of_ne hc hs]
        rfl

theorem pieces_of_notMem {s : List Char} (h : '/' ∉ s) : pieces s = [s] := by
  induction s with
  | nil => rfl
  | cons c s ih =>
    have hc : c ≠ '/' := fun hc => h (hc ▸ List.mem_cons_self)
    exact pieces_cons_of_ne hc (ih fun hs => h (List.mem_cons_of_mem _ hs))

theorem slash_notMem {s p : List Char} (h : p ∈ pieces s) : '/' ∉ p := by
  induction s generalizing p with
  | nil =>
    obtain rfl : p = [] := by simpa [pieces] using h
    simp
  | cons c s ih =>
    by_cases hc : c = '/'
    · subst hc
      rcases List.mem_cons.1 h with rfl | h
      · simp
      · exact ih h
    · cases hs : pieces s with
      | nil => exact absurd hs (pieces_ne_nil s)
      | cons q qs =>
        rw [pieces_cons_of_ne hc hs] at h
        rcases List.mem_cons.1 h with rfl | h
        · have hq := ih (by rw [hs]; exact List.mem_cons_self)
          exact fun h => (List.mem_cons.1 h).elim (Ne.symm hc) hq
        · exact ih (by rw [hs]; exact List.mem_cons_of_mem _ h)

/-- A path whose last piece is a name has this name. -/
theorem fileName?_of_pieces {p : Path} {ps : List (List Char)} {last : List Char}
    (h : pieces p.text.toList = ps ++ [last])
    (hlast : ¬ (last = [] ∨ last = ['.'] ∨ last = ['.', '.'])) :
    p.fileName? = some (String.ofList last) := by
  have hpart : part? last = some (.name (String.ofList last)) := by
    rw [part?, if_neg fun h => hlast (h.imp_right .inl), if_neg fun h => hlast (.inr (.inr h))]
  have hparts : p.parts.getLast? = some (.name (String.ofList last)) := by
    unfold parts
    simp only
    rw [h, List.filterMap_append, List.filterMap_cons, hpart, List.filterMap_nil,
      ← List.append_assoc, List.getLast?_append, List.getLast?_singleton, Option.some_or]
  rw [fileName?, hparts]

end Path

namespace FileTree

theorem isDirectoryAt_dropLast {t : FileTree} {l : Location} (h : t.isDirectoryAt l) :
    t.isDirectoryAt l.dropLast := by
  rcases List.eq_nil_or_concat l with rfl | ⟨k, name, rfl⟩
  · exact h
  rw [List.concat_eq_append, List.dropLast_concat]
  unfold isDirectoryAt node? at h ⊢
  rw [List.concat_eq_append, Node.at?_append] at h
  cases hk : t.root.at? k with
  | none => simp [hk] at h
  | some n =>
    cases n with
    | file content modified => simp [hk, Node.at?, Node.entries] at h
    | directory modified es => rfl

/-- The way to a file ends in the name under which it lies in its directory. -/
theorem piece_of_file {t : FileTree} {l m : Location} {ps : List (List Char)}
    (h : t.follow? l ps = some m) (hps : ps ≠ []) (hm : t.isDirectoryAt m = false) :
    ∃ init last k, ps = init ++ [last] ∧ m = k ++ [String.ofList last] ∧ ¬ Special last := by
  rcases List.eq_nil_or_concat ps with rfl | ⟨init, last, rfl⟩
  · exact absurd rfl hps
  rw [List.concat_eq_append] at h ⊢
  rw [follow?_concat] at h
  obtain ⟨k, -, hstep⟩ := Option.bind_eq_some_iff.1 h
  -- a step that stays or goes up ends in a directory
  obtain ⟨hk, ⟨-, rfl⟩ | ⟨-, rfl⟩ | ⟨hspecial, rfl, -⟩⟩ := step?_eq_some_iff.1 hstep
  · rw [hk] at hm
    cases hm
  · rw [isDirectoryAt_dropLast hk] at hm
    cases hm
  · exact ⟨init, last, k, rfl, rfl, hspecial⟩

/-- The path of a location ends in the last name of the location. -/
theorem pieces_pathOf (l : Location) {name : String} (h : '/' ∉ name.toList) :
    ∃ ps, Path.pieces (pathOf (l ++ [name])).text.toList = ps ++ [name.toList] := by
  have htext : ∃ s, (pathOf (l ++ [name])).text.toList = s ++ '/' :: name.toList := by
    by_cases hl : l = []
    · subst hl
      exact ⟨[], by simp [pathOf]⟩
    · refine ⟨'/' :: ("/".intercalate l).toList, ?_⟩
      simp [pathOf, String.intercalate_append_of_ne_nil hl (by simp : [name] ≠ [])]
  obtain ⟨s, hs⟩ := htext
  exact ⟨Path.pieces s, by rw [hs, Path.pieces_append, Path.pieces_of_notMem h]⟩

end FileTree

section

variable {files : FileTree} {path : Path} {source : Source}

/-- A source that is read has the resolved path, the text and the time of its file. -/
theorem readSource_eq_ok (h : readSource files path = .ok source) :
    ∃ l, files.resolve? path = some l ∧ source.path = FileTree.pathOf l ∧
      files.textAt? l = some source.text ∧ files.modifiedAt? l = some source.mtime := by
  unfold readSource at h
  split at h
  · cases h
  · next l hl =>
    split at h
    · next text modified ht hm =>
      cases h
      exact ⟨l, hl, rfl, ht, hm⟩
    · cases h

/-- A source is named after the path it was asked for. -/
theorem stem_of_readSource (h : readSource files path = .ok source) :
    source.routineName = path.stem := by
  obtain ⟨l, hl, hpath, htext, -⟩ := readSource_eq_ok h
  have hfile : files.isDirectoryAt l = false := by
    unfold FileTree.textAt? at htext
    unfold FileTree.isDirectoryAt
    split at htext
    · next content modified hn => rw [hn]; rfl
    · cases htext
  unfold FileTree.resolve? at hl
  split at hl
  · cases hl
  · obtain ⟨init, last, k, hpieces, rfl, hlast⟩ :=
      FileTree.piece_of_file hl (Path.pieces_ne_nil _) hfile
    have hslash : '/' ∉ (String.ofList last).toList := by
      rw [String.toList_ofList]
      exact Path.slash_notMem (s := path.text.toList) (by rw [hpieces]; simp)
    obtain ⟨ps, hps⟩ := FileTree.pieces_pathOf k hslash
    rw [String.toList_ofList] at hps
    unfold Source.routineName Path.stem
    rw [hpath, Path.fileName?_of_pieces hps hlast, Path.fileName?_of_pieces hpieces hlast]

/-- A source has the time that its path shows. -/
theorem mtime_of_readSource (h : readSource files path = .ok source) {modified : Int64}
    (hm : modifiedTime files path = .ok modified) : source.mtime = modified := by
  obtain ⟨l, hl, -, -, htime⟩ := readSource_eq_ok h
  unfold modifiedTime at hm
  split at hm
  · next t ht =>
    cases hm
    unfold FileTree.modified? FileTree.locate? at ht
    split at ht
    · rw [hl, Option.bind_some, htime] at ht
      exact Option.some.inj ht
    · cases ht
  · cases hm

end

end StoredRoutines
