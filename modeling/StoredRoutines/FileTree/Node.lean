/-!
# Files and directories

What can lie at a place of a file tree, and the two ways to get at what lies further down: looking
it up and changing it.

## Main definitions

- `Location` — the names on the way to a node
- `Node` — a file with its bytes, or a directory with its entries
- `Node.at?` — the node at a location below a directory
- `Node.changeAt` — a directory with a change at one location below it
- `Node.files`, `Node.directories` — the locations of all files and directories below a directory
- `Node.Tidy` — no directory has two entries of one name

## Design notes

A directory bears the time at which an entry was last added to it or taken from it. Changing what
an entry holds leaves that time as it is.
-/

namespace StoredRoutines

/-- The names on the way from a directory to a node below it. -/
abbrev Location : Type := List String

/-- A file or a directory. -/
inductive Node where
  /-- A file with its bytes and the time of its last change, in seconds. -/
  | file (content : ByteArray) (modified : Int64)
  /-- A directory with the time of its last change, in seconds, and what lies in it by name. -/
  | directory (modified : Int64) (entries : List (String × Node))

namespace Node

/-- Whether a node is a directory. -/
def isDirectory : Node → Bool
  | file .. => false
  | directory .. => true

/-- The time of the last change of a node. -/
def modified : Node → Int64
  | file _ modified => modified
  | directory modified _ => modified

/-- A node with another time of its last change. -/
def setModified (n : Node) (time : Int64) : Node :=
  match n with
  | file content _ => file content time
  | directory _ entries => directory time entries

/-- What lies in a node; nothing lies in a file. -/
def entries : Node → List (String × Node)
  | file .. => []
  | directory _ entries => entries

/-! ### Entries -/

/-- Entries with another node under a name. -/
def setEntry (name : String) (n : Node) : List (String × Node) → List (String × Node)
  | [] => [(name, n)]
  | e :: rest => if e.1 = name then (name, n) :: rest else e :: setEntry name n rest

/-- Entries without one name. -/
def dropEntry (name : String) (entries : List (String × Node)) : List (String × Node) :=
  entries.filter fun e => e.1 ≠ name

/-- A directory in which a node is put under a name at a given time. -/
def withEntry (d : Node) (time : Int64) (name : String) (n : Node) : Node :=
  match d with
  | file content modified => file content modified
  | directory _ entries => directory time (setEntry name n entries)

/-- A directory from which a name is taken at a given time. -/
def withoutEntry (d : Node) (time : Int64) (name : String) : Node :=
  match d with
  | file content modified => file content modified
  | directory _ entries => directory time (dropEntry name entries)

/-- A directory from which all entries are taken at a given time. -/
def emptied (time : Int64) (d : Node) : Node :=
  match d with
  | file content modified => file content modified
  | directory modified entries => directory (if entries.isEmpty then modified else time) []

theorem mem_setEntry {name : String} {n : Node} {es : List (String × Node)}
    {e : String × Node} (h : e ∈ setEntry name n es) : e = (name, n) ∨ e ∈ es := by
  induction es with
  | nil => simpa [setEntry] using h
  | cons e' rest ih =>
    by_cases he : e'.1 = name
    · rw [setEntry, if_pos he] at h
      exact (List.mem_cons.1 h).imp_right (List.mem_cons_of_mem _)
    · rw [setEntry, if_neg he] at h
      rcases List.mem_cons.1 h with rfl | h
      · exact .inr List.mem_cons_self
      · exact (ih h).imp_right (List.mem_cons_of_mem _)

/-- The name that has been set leads to the node it was set to. -/
theorem lookup_setEntry_self (name : String) (n : Node) (es : List (String × Node)) :
    (setEntry name n es).lookup name = some n := by
  induction es with
  | nil => simp [setEntry]
  | cons e rest ih =>
    obtain ⟨first, child⟩ := e
    by_cases he : first = name
    · simp [setEntry, he]
    · have hne : (name == first) = false := by simpa using fun h : name = first => he h.symm
      simp [setEntry, he, List.lookup_cons, hne, ih]

/-- All other names lead where they led. -/
theorem lookup_setEntry_of_ne {name other : String} (h : other ≠ name) (n : Node)
    (es : List (String × Node)) : (setEntry name n es).lookup other = es.lookup other := by
  have hname : (other == name) = false := by simpa using h
  induction es with
  | nil => simp [setEntry, List.lookup_cons, hname]
  | cons e rest ih =>
    obtain ⟨first, child⟩ := e
    by_cases he : first = name
    · simp [setEntry, he, List.lookup_cons, hname]
    · simp [setEntry, he, List.lookup_cons, ih]

/-! ### Locations -/

/-- The node at a location below a node. -/
def at? : Node → Location → Option Node
  | n, [] => some n
  | n, name :: rest => (n.entries.lookup name).bind fun child => child.at? rest

/-- A node with the node at a location below it changed; where there is none, nothing is. -/
def changeAt (f : Node → Node) : Node → Location → Node
  | n, [] => f n
  | .file content modified, _ :: _ => .file content modified
  | .directory modified entries, name :: rest =>
    match entries.lookup name with
    | none => .directory modified entries
    | some child => .directory modified (setEntry name (child.changeAt f rest) entries)

/-- The changed node lies where the node lay. -/
theorem at?_changeAt_self {f : Node → Node} {n m : Node} {l : Location} (h : n.at? l = some m) :
    (n.changeAt f l).at? l = some (f m) := by
  induction l generalizing n with
  | nil =>
    obtain rfl : n = m := by simpa [at?] using h
    simp [changeAt, at?]
  | cons name rest ih =>
    cases n with
    | file content modified => simp [at?, entries] at h
    | directory modified es =>
      cases hl : es.lookup name with
      | none => simp [at?, entries, hl] at h
      | some child =>
        have hc : child.at? rest = some m := by simpa [at?, entries, hl] using h
        simp [changeAt, hl, at?, entries, lookup_setEntry_self, ih hc]

mutual

/-- The locations of the files below a node; a file lies at the empty location below itself. -/
def files : Node → List Location
  | file .. => [[]]
  | directory _ entries => filesOfEntries entries

/-- The locations of the files among entries and below them. -/
def filesOfEntries : List (String × Node) → List Location
  | [] => []
  | (name, n) :: rest => n.files.map (name :: ·) ++ filesOfEntries rest

end

mutual

/-- The locations of the directories below a node, the node itself included. -/
def directories : Node → List Location
  | file .. => []
  | directory _ entries => [] :: directoriesOfEntries entries

/-- The locations of the directories among entries and below them. -/
def directoriesOfEntries : List (String × Node) → List Location
  | [] => []
  | (name, n) :: rest => n.directories.map (name :: ·) ++ directoriesOfEntries rest

end

/-! ### Tidy nodes -/

/-- No directory has two entries of one name. -/
inductive Tidy : Node → Prop where
  /-- A file has no entries. -/
  | file (content : ByteArray) (modified : Int64) : Tidy (.file content modified)
  /-- The names in a directory differ, and all that lies in it is tidy. -/
  | directory (modified : Int64) {entries : List (String × Node)}
      (distinct : (entries.map (·.1)).Nodup) (inner : ∀ e ∈ entries, Tidy e.2) :
      Tidy (.directory modified entries)

theorem fst_mem_of_mem_setEntry {name x : String} {n : Node} {es : List (String × Node)}
    (h : x ∈ (setEntry name n es).map (·.1)) : x = name ∨ x ∈ es.map (·.1) := by
  obtain ⟨e, he, rfl⟩ := List.mem_map.1 h
  exact (mem_setEntry he).imp (congrArg Prod.fst) List.mem_map_of_mem

theorem nodup_setEntry {name : String} {n : Node} {es : List (String × Node)}
    (h : (es.map (·.1)).Nodup) : ((setEntry name n es).map (·.1)).Nodup := by
  induction es with
  | nil => simp [setEntry]
  | cons e rest ih =>
    rw [List.map_cons, List.nodup_cons] at h
    by_cases he : e.1 = name
    · rw [setEntry, if_pos he, List.map_cons, List.nodup_cons]
      exact ⟨he ▸ h.1, h.2⟩
    · rw [setEntry, if_neg he, List.map_cons, List.nodup_cons]
      exact ⟨fun hm => (fst_mem_of_mem_setEntry hm).elim he h.1, ih h.2⟩

theorem tidy_of_lookup {name : String} {n : Node} {es : List (String × Node)}
    (h : ∀ e ∈ es, Tidy e.2) (hn : es.lookup name = some n) : n.Tidy := by
  induction es with
  | nil => simp at hn
  | cons e rest ih =>
    rw [List.lookup_cons] at hn
    split at hn
    · exact Option.some.inj hn ▸ h e List.mem_cons_self
    · exact ih (fun e' he' => h e' (List.mem_cons_of_mem _ he')) hn

theorem Tidy.setModified {n : Node} (h : n.Tidy) (time : Int64) : (n.setModified time).Tidy := by
  cases h with
  | file content modified => exact .file content time
  | directory modified distinct inner => exact .directory time distinct inner

theorem Tidy.withEntry {n : Node} (h : n.Tidy) (time : Int64) (name : String) {child : Node}
    (hc : child.Tidy) : (n.withEntry time name child).Tidy := by
  cases h with
  | file content modified => exact .file content modified
  | directory modified distinct inner =>
    refine .directory time (nodup_setEntry distinct) fun e he => ?_
    rcases mem_setEntry he with rfl | he
    · exact hc
    · exact inner e he

theorem Tidy.withoutEntry {n : Node} (h : n.Tidy) (time : Int64) (name : String) :
    (n.withoutEntry time name).Tidy := by
  cases h with
  | file content modified => exact .file content modified
  | directory modified distinct inner =>
    exact .directory time (distinct.sublist (List.filter_sublist.map _))
      fun e he => inner e (List.mem_filter.1 he).1

theorem Tidy.emptied {n : Node} (h : n.Tidy) (time : Int64) : (n.emptied time).Tidy := by
  cases h with
  | file content modified => exact .file content modified
  | directory modified distinct inner =>
    exact .directory _ List.nodup_nil fun _ he => nomatch he

/-- A change that keeps nodes tidy may be made at any location. -/
theorem Tidy.changeAt {n : Node} (h : n.Tidy) {f : Node → Node}
    (hf : ∀ m : Node, m.Tidy → (f m).Tidy) (l : Location) : (n.changeAt f l).Tidy := by
  induction l generalizing n with
  | nil => exact hf n h
  | cons name rest ih =>
    cases h with
    | file content modified => exact .file content modified
    | directory modified distinct inner =>
      rw [Node.changeAt]
      split
      · exact .directory modified distinct inner
      · next child hl =>
        refine .directory modified (nodup_setEntry distinct) fun e he => ?_
        rcases mem_setEntry he with rfl | he
        · exact ih (tidy_of_lookup inner hl)
        · exact inner e he

end Node

end StoredRoutines
