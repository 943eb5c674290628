import Mathlib.Data.List.Nodup
import StoredRoutines.Proofs.FileTree.Content
import StoredRoutines.Proofs.FileTree.Named

/-!
# Lists of files

The files and the directories below a directory are listed by the names on the way to them. Whatever
lies there is listed, and all of it once, since no directory has two entries of one name.

## Main results

- `FileTree.mem_filesBelow`, `FileTree.nodup_filesBelow` — the files below a directory
- `FileTree.mem_directoriesBelow` — the directories below a directory
-/

namespace StoredRoutines

namespace Node

variable {n c : Node} {name : String} {l : Location} {es : List (String × Node)}

theorem filesOfEntries_eq (es : List (String × Node)) :
    filesOfEntries es = es.flatMap fun e => e.2.files.map (e.1 :: ·) := by
  induction es with
  | nil => rfl
  | cons e es ih => rw [filesOfEntries, List.flatMap_cons, ih]

theorem directoriesOfEntries_eq (es : List (String × Node)) :
    directoriesOfEntries es = es.flatMap fun e => e.2.directories.map (e.1 :: ·) := by
  induction es with
  | nil => rfl
  | cons e es ih => rw [directoriesOfEntries, List.flatMap_cons, ih]

theorem lookup_of_mem (h : (es.map (·.1)).Nodup) (hmem : (name, c) ∈ es) :
    es.lookup name = some c := by
  induction es with
  | nil => cases hmem
  | cons e es ih =>
    rw [List.map_cons, List.nodup_cons] at h
    rw [SortedMap.lookup_cons_if]
    rcases List.mem_cons.1 hmem with rfl | hmem
    · exact if_pos rfl
    · have hne : name ≠ e.1 := by
        rintro rfl
        exact h.1 (List.mem_map.2 ⟨_, hmem, rfl⟩)
      rw [if_neg hne]
      exact ih h.2 hmem

/-- Where names differ, each entry is the one that is found under its name. -/
theorem lookup_eq_some_iff_mem (h : (es.map (·.1)).Nodup) :
    es.lookup name = some c ↔ (name, c) ∈ es :=
  ⟨mem_of_lookup, lookup_of_mem h⟩

/-- What lies below an entry is listed below its name. -/
theorem mem_flatMap_entries (h : (es.map (·.1)).Nodup) (f : Node → List Location) :
    name :: l ∈ es.flatMap (fun e => (f e.2).map (e.1 :: ·)) ↔
      ∃ c, es.lookup name = some c ∧ l ∈ f c := by
  simp only [List.mem_flatMap, List.mem_map, List.cons.injEq, lookup_eq_some_iff_mem h]
  constructor
  · rintro ⟨⟨first, c⟩, hmem, rest, hrest, rfl, rfl⟩
    exact ⟨c, hmem, hrest⟩
  · rintro ⟨c, hmem, hl⟩
    exact ⟨(name, c), hmem, l, hl, rfl, rfl⟩

theorem nil_notMem_flatMap_entries (f : Node → List Location) :
    [] ∉ es.flatMap (fun e => (f e.2).map (e.1 :: ·)) := by
  simp

theorem Tidy.at? (h : n.Tidy) (hc : n.at? l = some c) : c.Tidy := by
  induction l generalizing n with
  | nil =>
    obtain rfl : n = c := Option.some.inj hc
    exact h
  | cons name l ih =>
    obtain ⟨child, hchild, hbelow⟩ := Option.bind_eq_some_iff.1 hc
    cases h with
    | file content modified => cases hchild
    | directory modified distinct inner => exact ih (tidy_of_lookup inner hchild) hbelow

/-- Every file below a node is listed. -/
theorem mem_files (h : n.Tidy) : l ∈ n.files ↔ (n.fileAt? l).isSome := by
  induction l generalizing n with
  | nil =>
    cases n with
    | file content modified => simp [files, fileAt?_file]
    | directory modified es =>
      rw [files, filesOfEntries_eq]
      exact iff_of_false (nil_notMem_flatMap_entries _) Bool.false_ne_true
  | cons name l ih =>
    cases h with
    | file content modified => simp [files, fileAt?_file]
    | directory modified distinct inner =>
      rw [files, filesOfEntries_eq, mem_flatMap_entries distinct, fileAt?_directory]
      constructor
      · rintro ⟨c, hc, hl⟩
        rw [hc]
        exact (ih (tidy_of_lookup inner hc)).1 hl
      · intro hsome
        obtain ⟨file, hfile⟩ := Option.isSome_iff_exists.1 hsome
        obtain ⟨c, hc, hfile⟩ := Option.bind_eq_some_iff.1 hfile
        refine ⟨c, hc, (ih (tidy_of_lookup inner hc)).2 ?_⟩
        rw [hfile]
        rfl

/-- Every directory below a node is listed, the node itself included. -/
theorem mem_directories (h : n.Tidy) : l ∈ n.directories ↔ n.hasDirectory l := by
  induction l generalizing n with
  | nil =>
    cases n with
    | file content modified => exact iff_of_false List.not_mem_nil Bool.false_ne_true
    | directory modified es =>
      rw [directories]
      exact iff_of_true List.mem_cons_self rfl
  | cons name l ih =>
    cases h with
    | file content modified => exact iff_of_false List.not_mem_nil Bool.false_ne_true
    | directory modified distinct inner =>
      rw [directories, directoriesOfEntries_eq, List.mem_cons, mem_flatMap_entries distinct,
        hasDirectory_cons, or_iff_right (List.cons_ne_nil _ _)]
      constructor
      · rintro ⟨c, hc, hl⟩
        rw [hc]
        exact (ih (tidy_of_lookup inner hc)).1 hl
      · intro hany
        obtain ⟨c, hc, hl⟩ := (Option.any_eq_true _ _).1 hany
        exact ⟨c, hc, (ih (tidy_of_lookup inner hc)).2 hl⟩

/-- No file below a node is listed twice. -/
theorem nodup_files (h : n.Tidy) : n.files.Nodup := by
  induction h with
  | file content modified => exact List.nodup_singleton _
  | directory modified distinct _ ih =>
    rw [files, filesOfEntries_eq, List.nodup_flatMap]
    constructor
    · intro e he
      exact (ih e he).map List.cons_injective
    -- what is listed for different entries begins with different names
    · refine (List.pairwise_map.1 distinct).imp fun {e e'} hne => ?_
      intro l hl hl'
      obtain ⟨rest, -, rfl⟩ := List.mem_map.1 hl
      obtain ⟨rest', -, heq⟩ := List.mem_map.1 hl'
      exact hne (List.cons.inj heq).1.symm

end Node

namespace FileTree

variable {t : FileTree} {l names : Location}

theorem tidy_of_node? {n : Node} (h : t.node? l = some n) : n.Tidy :=
  t.tidy.at? h

/-- The files below a location are listed. -/
theorem mem_filesBelow : names ∈ t.filesBelow l ↔ (t.fileAt? (l ++ names)).isSome := by
  rw [filesBelow, fileAt?_append]
  cases hn : t.node? l with
  | none => simp
  | some n => exact Node.mem_files (tidy_of_node? hn)

theorem nodup_filesBelow : (t.filesBelow l).Nodup := by
  rw [filesBelow]
  cases hn : t.node? l with
  | none => exact List.nodup_nil
  | some n => exact Node.nodup_files (tidy_of_node? hn)

/-- The directories below a location are listed. -/
theorem mem_directoriesBelow : names ∈ t.directoriesBelow l ↔ t.isDirectoryAt (l ++ names) := by
  rw [directoriesBelow, isDirectoryAt_eq, Node.hasDirectory, Node.at?_append]
  change _ ↔ ((t.node? l).bind _).any _
  cases hn : t.node? l with
  | none => simp
  | some n => exact Node.mem_directories (tidy_of_node? hn)

end FileTree

end StoredRoutines
