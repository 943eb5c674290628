import StoredRoutines.Proofs.FileTree
import StoredRoutines.Proofs.Source

/-!
# Names in a file tree

A name under which something lies in a directory is a single piece of a path, and not one of those
that lead to the directory itself or to the one above it. Whatever is written to a tree or moved in
it, this stays so.

## Main definitions

- `FileTree.IsName` — a name that something can have
- `Node.Named`, `FileTree.Named` — all that lies below a node, and in a tree, has such a name

## Main results

- `FileTree.named_empty`, `FileTree.Named.makeDirectories`, `FileTree.Named.write?`,
  `FileTree.Named.add`, `FileTree.Named.rename?` — the trees that can be made from the empty one
- `FileTree.Named.name_of_node?` — the names on the way to a node
-/

namespace StoredRoutines

/-- A name is a piece of a path that leads from a directory to one of its entries. -/
structure FileTree.IsName (name : String) : Prop where
  not_special : ¬ Special name.toList
  slash_notMem : '/' ∉ name.toList

open FileTree (IsName)

namespace Node

/-- All that lies below a node has a name. -/
inductive Named : Node → Prop where
  /-- Nothing lies below a file. -/
  | file (content : ByteArray) (modified : Int64) : Named (.file content modified)
  /-- The entries of a directory have names, and so has all that lies below them. -/
  | directory (modified : Int64) {entries : List (String × Node)}
      (names : ∀ e ∈ entries, IsName e.1) (inner : ∀ e ∈ entries, Named e.2) :
      Named (.directory modified entries)

variable {n m c : Node} {name : String}

theorem mem_of_lookup {es : List (String × Node)} (h : es.lookup name = some c) :
    (name, c) ∈ es := by
  obtain ⟨above, below, rfl, -⟩ := List.lookup_eq_some_iff.1 h
  exact List.mem_append_right _ List.mem_cons_self

theorem named_setEntry {es : List (String × Node)} {modified : Int64} (time : Int64)
    (h : (directory modified es).Named) (hname : IsName name) (hc : c.Named) :
    (directory time (setEntry name c es)).Named := by
  cases h with
  | directory _ names inner =>
    refine .directory _ (fun e he => ?_) fun e he => ?_
    · rcases mem_setEntry he with rfl | he
      · exact hname
      · exact names e he
    · rcases mem_setEntry he with rfl | he
      · exact hc
      · exact inner e he

theorem Named.withEntry (h : n.Named) (time : Int64) (hname : IsName name) (hc : c.Named) :
    (n.withEntry time name c).Named := by
  cases n with
  | file content modified => exact .file content modified
  | directory modified es => exact named_setEntry time h hname hc

theorem Named.withoutEntry (h : n.Named) (time : Int64) (name : String) :
    (n.withoutEntry time name).Named := by
  cases h with
  | file content modified => exact .file content modified
  | directory modified names inner =>
    exact .directory time (fun e he => names e (List.mem_filter.1 he).1)
      fun e he => inner e (List.mem_filter.1 he).1

/-- A change that keeps names may be made at any location. -/
theorem Named.changeAt {f : Node → Node} (h : n.Named) (hf : ∀ m : Node, m.Named → (f m).Named)
    (l : Location) : (n.changeAt f l).Named := by
  induction l generalizing n with
  | nil => exact hf n h
  | cons name rest ih =>
    cases n with
    | file content modified => exact h
    | directory modified es =>
      rw [Node.changeAt]
      split
      next => exact h
      next child hchild =>
        cases h with
        | directory _ names inner =>
          have hmem := mem_of_lookup hchild
          exact named_setEntry _ (.directory modified names inner) (names _ hmem)
            (ih (inner _ hmem))

/-- All names on the way to a node are names, and so are those below it. -/
theorem Named.at? {l : Location} (h : n.Named) (hm : n.at? l = some m) :
    (∀ name ∈ l, IsName name) ∧ m.Named := by
  induction l generalizing n with
  | nil =>
    obtain rfl : n = m := Option.some.inj hm
    exact ⟨nofun, h⟩
  | cons name rest ih =>
    obtain ⟨child, hchild, hrest⟩ := Option.bind_eq_some_iff.1 hm
    cases h with
    | file content modified => cases hchild
    | directory modified names inner =>
      have hmem := mem_of_lookup hchild
      obtain ⟨hnames, hm⟩ := ih (inner _ hmem) hrest
      exact ⟨List.forall_mem_cons.2 ⟨names _ hmem, hnames⟩, hm⟩

end Node

namespace FileTree

/-- All that lies in a tree has a name. -/
def Named (t : FileTree) : Prop :=
  t.root.Named

variable {t u : FileTree} {p : Path} {s : Slot} {n : Node}

/-- The names on the way to a node are pieces of paths. -/
theorem Named.name_of_node? {l : Location} (h : t.Named) (hn : (t.node? l).isSome) :
    ∀ name ∈ l, IsName name := by
  obtain ⟨n, hn⟩ := Option.isSome_iff_exists.1 hn
  exact (Node.Named.at? h hn).1

/-- The empty tree has names only. -/
theorem named_empty (now : Int64) : (empty now).Named :=
  .directory now nofun nofun

/-- A piece between slashes that is not special is a name. -/
theorem isName_of_piece {piece : List Char} (hspecial : ¬ Special piece) (hslash : '/' ∉ piece) :
    IsName (String.ofList piece) := by
  rw [← String.toList_ofList (l := piece)] at hspecial hslash
  exact ⟨hspecial, hslash⟩

/-! ### Entries -/

/-- A change that keeps the names at its place keeps them in the tree. -/
theorem Named.change {f : Node → Node} {l : Location} (h : t.Named)
    (hf : ∀ n : Node, n.Tidy → (f n).Tidy) (hnamed : ∀ n : Node, n.Named → (f n).Named) :
    (t.change l f hf).Named :=
  Node.Named.changeAt h hnamed l

theorem Named.link (h : t.Named) (hs : IsName s.name) (hn : n.Tidy) (hnamed : n.Named) :
    (t.link s n hn).Named :=
  h.change _ fun _ hm => hm.withEntry _ hs hnamed

theorem Named.unlink (h : t.Named) (s : Slot) : (t.unlink s).Named :=
  h.change _ fun _ hm => hm.withoutEntry _ _

theorem Named.putFile (h : t.Named) (hs : IsName s.name) (content : ByteArray)
    (modified : Int64) : (t.putFile s content modified).Named := by
  unfold FileTree.putFile
  split
  · exact h.change _ fun _ _ => .file content modified
  · exact h.link hs _ (.file content modified)

/-! ### Operations -/

/-- A piece that leads nowhere from a directory is a name. -/
theorem not_special_of_step? {l : Location} {piece : List Char} (h : t.step? l piece = none)
    (hl : t.isDirectoryAt l) : ¬ Special piece := by
  intro hspecial
  have hsome : ∃ m, t.step? l piece = some m := by
    rcases hspecial with rfl | rfl | rfl
    · exact ⟨l, step?_eq_some_iff.2 ⟨hl, .inl ⟨.inl rfl, rfl⟩⟩⟩
    · exact ⟨l, step?_eq_some_iff.2 ⟨hl, .inl ⟨.inr rfl, rfl⟩⟩⟩
    · exact ⟨l.dropLast, step?_eq_some_iff.2 ⟨hl, .inr (.inl ⟨rfl, rfl⟩)⟩⟩
  obtain ⟨m, hm⟩ := hsome
  rw [h] at hm
  cases hm

/-- The directories that are made along a path have names. -/
theorem Named.makeAlong {l : Location} {pieces : List (List Char)} (h : t.Named)
    (hpieces : ∀ piece ∈ pieces, '/' ∉ piece) : (t.makeAlong l pieces).2.Named := by
  induction pieces generalizing t l with
  | nil => exact h
  | cons piece rest ih =>
    have hrest : ∀ q ∈ rest, '/' ∉ q := fun q hq => hpieces q (List.mem_cons_of_mem _ hq)
    rw [FileTree.makeAlong]
    cases hstep : t.step? l piece with
    | some next => exact ih h hrest
    | none =>
      simp only
      split
      next hmake =>
        have hspecial := not_special_of_step? hstep (Bool.and_eq_true_iff.1 hmake).1
        have hname := isName_of_piece hspecial (hpieces piece List.mem_cons_self)
        exact ih (h.link hname _ (.directory t.now nofun nofun)) hrest
      next => exact h

theorem Named.makeDirectories (h : t.Named) (p : Path) : (t.makeDirectories p).2.Named := by
  have hpieces : ∀ piece ∈ Path.pieces p.text.toList, '/' ∉ piece :=
    fun _ hpiece => Path.slash_notMem hpiece
  unfold FileTree.makeDirectories
  simp only
  split
  · exact h
  split
  · exact h
  split
  · refine h.makeAlong fun piece hpiece => hpieces piece ?_
    have hkept := List.mem_reverse.1 (List.dropLast_subset _ hpiece)
    exact List.mem_reverse.1 ((List.dropWhile_suffix _).subset hkept)
  · exact h.makeAlong hpieces

/-- The last piece of the path for a new file is the name that it gets. -/
theorem isName_of_slot? (h : t.slot? p = some s) : IsName s.name := by
  obtain ⟨last, hlast, -, hspecial, hname, -, -⟩ := Spares.slot?_eq_some h
  rw [hname]
  exact isName_of_piece hspecial (Path.slash_notMem (List.mem_of_getLast? hlast))

theorem Named.write? {content : ByteArray} (h : t.Named) (hu : t.write? p content = some u) :
    u.Named := by
  obtain ⟨s, hs, rfl⟩ := Option.map_eq_some_iff.1 hu
  exact h.putFile (isName_of_slot? (fileSlot?_eq_some hs).1) content t.now

theorem Named.add (h : t.Named) (p : Path) (content : ByteArray) (modified : Int64) :
    (t.add p content modified).Named := by
  have hput : ∀ {t : FileTree}, t.Named →
      (((t.fileSlot? p).map fun s => t.putFile s content modified).getD t).Named := by
    intro t ht
    cases hs : t.fileSlot? p with
    | none => exact ht
    | some s => exact ht.putFile (isName_of_slot? (fileSlot?_eq_some hs).1) content modified
  unfold FileTree.add
  cases p.parent? with
  | none => exact hput h
  | some d => exact hput (h.makeDirectories d)

/-- Renaming a file keeps the names. -/
theorem Named.rename? {source target : Path} (h : t.Named)
    (hu : t.rename? source target = some u) : u.Named := by
  obtain ⟨old, new, content, modified, -, hnew, -, rfl⟩ := rename?_eq_some_iff.1 hu
  exact (h.unlink old).link (isName_of_slot? (fileSlot?_eq_some hnew).1) _ (.file content modified)

end FileTree

end StoredRoutines
