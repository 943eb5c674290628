import Mathlib.Data.List.Basic
import StoredRoutines.FileTree
import StoredRoutines.SortedMap

/-!
# Directories that stay

A path keeps leading to its directory as long as no directory on its way goes. Writing, moving and
removing files leaves all directories where they are.

## Main definitions

- `Node.Spares` — all directories below a node lie below another
- `FileTree.Spares` — all directories of a tree are in another

## Main results

- `FileTree.Spares.follow?` — the way to a directory that is spared
- `FileTree.Spares.locate?_of_slot?` — where the file in a place is found
-/

namespace StoredRoutines

namespace Node

/-- Whether there is a directory at a location below a node. -/
def hasDirectory (n : Node) (l : Location) : Bool :=
  (n.at? l).any isDirectory

/-- Whatever directory lies below a node lies below the other one as well. -/
def Spares (n m : Node) : Prop :=
  ∀ l, n.hasDirectory l → m.hasDirectory l

theorem Spares.refl (n : Node) : n.Spares n := fun _ h => h

theorem at?_directory (modified : Int64) (es : List (String × Node)) (name : String)
    (l : Location) :
    (directory modified es).at? (name :: l) = (es.lookup name).bind fun child => child.at? l :=
  rfl

theorem hasDirectory_cons (modified : Int64) (es : List (String × Node)) (name : String)
    (l : Location) :
    (directory modified es).hasDirectory (name :: l) =
      (es.lookup name).any fun child => child.hasDirectory l := by
  unfold hasDirectory
  rw [at?_directory]
  cases es.lookup name <;> rfl

theorem hasDirectory_of_file {n : Node} (h : n.isDirectory = false) (l : Location) :
    n.hasDirectory l = false := by
  cases n with
  | file content modified => cases l <;> rfl
  | directory modified es => cases h

/-- Entries that agree on directories make nodes that do. -/
theorem Spares.directory {a b : Int64} {es fs : List (String × Node)}
    (h : ∀ name child, es.lookup name = some child → child.isDirectory →
      ∃ child', fs.lookup name = some child' ∧ child.Spares child') :
    (directory a es).Spares (directory b fs) := by
  intro l hl
  cases l with
  | nil => rfl
  | cons name l =>
    rw [hasDirectory_cons] at hl ⊢
    cases hn : es.lookup name with
    | none => simp [hn] at hl
    | some child =>
      have hc : child.hasDirectory l = true := by simpa [hn] using hl
      have hd : child.isDirectory = true := by
        cases hfile : child.isDirectory with
        | true => rfl
        | false =>
          rw [hasDirectory_of_file hfile] at hc
          cases hc
      obtain ⟨child', hn', hs⟩ := h name child hn hd
      rw [hn']
      exact hs l hc

/-- A change that spares the directories of the node it is made at spares all others. -/
theorem Spares.changeAt {f : Node → Node} {n : Node} {l : Location}
    (h : ∀ m, n.at? l = some m → m.Spares (f m)) : n.Spares (n.changeAt f l) := by
  induction l generalizing n with
  | nil => exact h n rfl
  | cons name rest ih =>
    cases n with
    | file content modified => exact .refl _
    | directory modified es =>
      rw [Node.changeAt]
      cases hn : es.lookup name with
      | none => exact .refl _
      | some child =>
        refine .directory fun other c hc _ => ?_
        by_cases ho : other = name
        · subst ho
          rw [hn] at hc
          obtain rfl := Option.some.inj hc
          refine ⟨_, lookup_setEntry_self _ _ _, ih fun m hm => h m ?_⟩
          rw [at?_directory, hn, Option.bind_some, hm]
        · exact ⟨c, by rw [lookup_setEntry_of_ne ho, hc], .refl c⟩

/-- A node may be put in a place where there is no directory. -/
theorem Spares.withEntry {n : Node} {name : String}
    (h : ∀ child, n.at? [name] = some child → child.isDirectory = false) (time : Int64)
    (c : Node) : n.Spares (n.withEntry time name c) := by
  cases n with
  | file content modified => exact .refl _
  | directory modified es =>
    refine .directory fun other child hc hd => ?_
    have ho : other ≠ name := by
      rintro rfl
      rw [h child (by rw [at?_directory, hc]; rfl)] at hd
      cases hd
    exact ⟨child, by rw [lookup_setEntry_of_ne ho, hc], .refl child⟩

/-- What is no directory may be taken away. -/
theorem Spares.withoutEntry {n : Node} {name : String}
    (h : ∀ child, n.at? [name] = some child → child.isDirectory = false) (time : Int64) :
    n.Spares (n.withoutEntry time name) := by
  cases n with
  | file content modified => exact .refl _
  | directory modified es =>
    refine .directory fun other child hc hd => ?_
    have ho : other ≠ name := by
      rintro rfl
      rw [h child (by rw [at?_directory, hc]; rfl)] at hd
      cases hd
    have hkeep := SortedMap.lookup_filter (fun k => decide (k ≠ name)) other es
    rw [if_pos (by simpa using ho), hc] at hkeep
    exact ⟨child, hkeep, .refl child⟩

/-- A change that makes no directories at the node it is made at makes none elsewhere. -/
theorem Spares.of_changeAt {f : Node → Node} {n : Node} {l : Location}
    (h : ∀ m, n.at? l = some m → (f m).Spares m) : (n.changeAt f l).Spares n := by
  induction l generalizing n with
  | nil => exact h n rfl
  | cons name rest ih =>
    cases n with
    | file content modified => exact .refl _
    | directory modified es =>
      rw [Node.changeAt]
      cases hn : es.lookup name with
      | none => exact .refl _
      | some child =>
        refine .directory fun other c hc _ => ?_
        by_cases ho : other = name
        · subst ho
          rw [lookup_setEntry_self] at hc
          obtain rfl := Option.some.inj hc
          refine ⟨child, hn, ih fun m hm => h m ?_⟩
          rw [at?_directory, hn, Option.bind_some, hm]
        · rw [lookup_setEntry_of_ne ho] at hc
          exact ⟨c, hc, .refl c⟩

/-- A node without one of its entries has no directories that it did not have. -/
theorem Spares.of_withoutEntry (n : Node) (time : Int64) (name : String) :
    (n.withoutEntry time name).Spares n := by
  cases n with
  | file content modified => exact .refl _
  | directory modified es =>
    refine .directory fun other child hc _ => ?_
    have hkeep := SortedMap.lookup_filter (fun k => decide (k ≠ name)) other es
    split at hkeep
    · exact ⟨child, hkeep.symm.trans hc, .refl child⟩
    · exact absurd (hkeep.symm.trans hc) nofun

theorem at?_append (n : Node) (l k : Location) : n.at? (l ++ k) = (n.at? l).bind (·.at? k) := by
  induction l generalizing n with
  | nil => rfl
  | cons name rest ih =>
    rw [List.cons_append, at?, at?]
    cases n.entries.lookup name with
    | none => rfl
    | some child => exact ih child

end Node

namespace FileTree

/-! ### Steps -/

/-- The pieces that do not name an entry of a directory. -/
def Special (piece : List Char) : Prop :=
  piece = [] ∨ piece = ['.'] ∨ piece = ['.', '.']

/-- A step starts in a directory. It stays there, goes up, or goes down to an entry. -/
theorem step?_eq_some_iff {t : FileTree} {l m : Location} {p : List Char} :
    t.step? l p = some m ↔ t.isDirectoryAt l ∧
      ((p = [] ∨ p = ['.']) ∧ m = l ∨ p = ['.', '.'] ∧ m = l.dropLast ∨
        ¬ Special p ∧ m = l ++ [String.ofList p] ∧ (t.node? m).isSome) := by
  rw [step?, Special]
  by_cases hl : t.isDirectoryAt l
  · rw [if_pos hl]
    by_cases hstay : p = [] ∨ p = ['.']
    · rw [if_pos hstay]
      rw [Option.some.injEq, eq_comm (a := l)]
      rcases hstay with rfl | rfl <;> simp [hl]
    by_cases hup : p = ['.', '.']
    · subst hup
      rw [if_neg hstay, if_pos rfl, Option.some.injEq, eq_comm (a := l.dropLast)]
      simp [hl]
    · rw [if_neg hstay, if_neg hup, Option.ite_none_right_eq_some, Option.some.injEq]
      have hspecial : ¬ (p = [] ∨ p = ['.'] ∨ p = ['.', '.']) := by
        rintro (h | h | h)
        · exact hstay (.inl h)
        · exact hstay (.inr h)
        · exact hup h
      constructor
      · rintro ⟨hsome, rfl⟩
        exact ⟨hl, .inr (.inr ⟨hspecial, rfl, hsome⟩)⟩
      · rintro ⟨-, ⟨h, -⟩ | ⟨h, -⟩ | ⟨-, rfl, hsome⟩⟩
        · exact absurd h hstay
        · exact absurd h hup
        · exact ⟨hsome, rfl⟩
  · rw [if_neg hl]
    simp [hl]

theorem follow?_cons (t : FileTree) (l : Location) (p : List Char) (ps : List (List Char)) :
    t.follow? l (p :: ps) = (t.step? l p).bind fun m => t.follow? m ps :=
  List.foldlM_cons

theorem follow?_concat (t : FileTree) (l : Location) (ps : List (List Char)) (p : List Char) :
    t.follow? l (ps ++ [p]) = (t.follow? l ps).bind fun m => t.step? m p := by
  rw [follow?, List.foldlM_append]
  simp [follow?]

/-- A path leads to a location if it is accepted and its pieces can be followed. -/
theorem locate?_eq_some_iff {t : FileTree} {p : Path} {l : Location} :
    t.locate? p = some l ↔
      accepts p = true ∧ t.follow? (t.startOf p) (Path.pieces p.text.toList) = some l := by
  unfold locate? resolve?
  rw [Option.ite_none_right_eq_some]
  refine and_congr_right fun haccepts => ?_
  unfold accepts at haccepts
  simp only [Bool.and_eq_true, Bool.not_eq_true'] at haccepts
  rw [haccepts.1.1, if_neg Bool.false_ne_true]

theorem node?_append (t : FileTree) (l k : Location) :
    t.node? (l ++ k) = (t.node? l).bind fun n => n.at? k :=
  Node.at?_append t.root l k

theorem node?_isSome_of_isDirectoryAt {t : FileTree} {l : Location} (h : t.isDirectoryAt l) :
    (t.node? l).isSome := by
  rw [isDirectoryAt] at h
  cases hn : t.node? l with
  | none => simp [hn] at h
  | some n => rfl

/-! ### Directories that stay -/

/-- All directories of a tree are in the other, in which relative paths start at the same
    place. -/
structure Spares (t u : FileTree) : Prop where
  directory : ∀ l, t.isDirectoryAt l → u.isDirectoryAt l
  start : u.workingDirectory = t.workingDirectory

theorem isDirectoryAt_eq (t : FileTree) (l : Location) :
    t.isDirectoryAt l = t.root.hasDirectory l := by
  unfold isDirectoryAt node? Node.hasDirectory
  cases t.root.at? l <;> rfl

namespace Spares

theorem refl (t : FileTree) : t.Spares t := ⟨fun _ h => h, rfl⟩

theorem trans {t u v : FileTree} (h : t.Spares u) (h' : u.Spares v) : t.Spares v :=
  ⟨fun l hl => h'.directory l (h.directory l hl), h'.start.trans h.start⟩

theorem startOf_eq {t u : FileTree} (h : t.Spares u) (p : Path) : u.startOf p = t.startOf p := by
  unfold startOf
  rw [h.start]

/-- A change that spares what lies at its place spares the tree. -/
theorem change {t : FileTree} {l : Location} {f : Node → Node}
    (hf : ∀ n : Node, n.Tidy → (f n).Tidy) (h : ∀ n, t.node? l = some n → n.Spares (f n)) :
    t.Spares (t.change l f hf) := by
  refine ⟨fun k hk => ?_, rfl⟩
  rw [isDirectoryAt_eq] at hk ⊢
  exact Node.Spares.changeAt h k hk

/-- A change that adds no directory at its place adds none to the tree. -/
theorem of_change {t : FileTree} {l : Location} {f : Node → Node}
    (hf : ∀ n : Node, n.Tidy → (f n).Tidy) (h : ∀ n, t.node? l = some n → (f n).Spares n) :
    (t.change l f hf).Spares t := by
  refine ⟨fun k hk => ?_, rfl⟩
  rw [isDirectoryAt_eq] at hk ⊢
  exact Node.Spares.of_changeAt h k hk

theorem entry_of_slot {t : FileTree} {s : Slot} (h : t.isDirectoryAt s.location = false)
    {n : Node} (hn : t.node? s.directory = some n) {child : Node}
    (hc : n.at? [s.name] = some child) : child.isDirectory = false := by
  rw [isDirectoryAt, Slot.location, node?_append, hn, Option.bind_some, hc] at h
  exact h

theorem link {t : FileTree} {s : Slot} (h : t.isDirectoryAt s.location = false) {n : Node}
    (hn : n.Tidy) : t.Spares (t.link s n hn) :=
  .change _ fun _ hm => .withEntry (fun _ hc => entry_of_slot h hm hc) _ _

theorem unlink {t : FileTree} {s : Slot} (h : t.isDirectoryAt s.location = false) :
    t.Spares (t.unlink s) :=
  .change _ fun _ hm => .withoutEntry (fun _ hc => entry_of_slot h hm hc) _

theorem putFile {t : FileTree} {s : Slot} (h : t.isDirectoryAt s.location = false)
    (content : ByteArray) (modified : Int64) : t.Spares (t.putFile s content modified) := by
  unfold FileTree.putFile
  split
  · refine .change _ fun n hn l hl => ?_
    rw [isDirectoryAt, hn] at h
    rw [Node.hasDirectory_of_file h] at hl
    cases hl
  · exact link h _

/-! ### Ways -/

theorem isDirectoryAt_of_follow? {t : FileTree} {l m : Location} {ps : List (List Char)}
    (h : t.follow? l ps = some m) (hm : t.isDirectoryAt m) : t.isDirectoryAt l := by
  cases ps with
  | nil =>
    obtain rfl : l = m := Option.some.inj h
    exact hm
  | cons p ps =>
    rw [follow?_cons] at h
    obtain ⟨next, hstep, -⟩ := Option.bind_eq_some_iff.1 h
    exact (step?_eq_some_iff.1 hstep).1

theorem step? {t u : FileTree} (h : t.Spares u) {l m : Location} {p : List Char}
    (hstep : t.step? l p = some m) (hm : t.isDirectoryAt m) : u.step? l p = some m := by
  obtain ⟨hl, hcase⟩ := step?_eq_some_iff.1 hstep
  refine step?_eq_some_iff.2 ⟨h.directory l hl, ?_⟩
  rcases hcase with hstay | hup | ⟨hspecial, rfl, -⟩
  · exact .inl hstay
  · exact .inr (.inl hup)
  · exact .inr (.inr ⟨hspecial, rfl, node?_isSome_of_isDirectoryAt (h.directory _ hm)⟩)

theorem follow? {t u : FileTree} (h : t.Spares u) {l m : Location} {ps : List (List Char)}
    (hf : t.follow? l ps = some m) (hm : t.isDirectoryAt m) : u.follow? l ps = some m := by
  induction ps generalizing l with
  | nil => exact hf
  | cons p ps ih =>
    rw [follow?_cons] at hf ⊢
    obtain ⟨next, hstep, hrest⟩ := Option.bind_eq_some_iff.1 hf
    rw [h.step? hstep (isDirectoryAt_of_follow? hrest hm)]
    exact ih hrest

/-! ### Places -/

/-- What a place says about the path it was found for. -/
theorem slot?_eq_some {t : FileTree} {p : Path} {s : Slot} (h : t.slot? p = some s) :
    ∃ last, (Path.pieces p.text.toList).getLast? = some last ∧ accepts p = true ∧
      ¬ Special last ∧ s.name = String.ofList last ∧
      t.follow? (t.startOf p) (Path.pieces p.text.toList).dropLast = some s.directory ∧
      t.isDirectoryAt s.directory := by
  unfold slot? at h
  simp only at h
  split at h
  · cases h
  · next last hlast =>
    -- the last piece is the name, and the pieces before it lead to the directory
    refine ⟨last, hlast, ?_⟩
    split at h
    · cases h
    · next ha =>
      split at h
      · cases h
      · next hspecial =>
        split at h
        · cases h
        · split at h
          · next l hl =>
            split at h
            · next hd =>
              obtain rfl := Option.some.inj h
              exact ⟨by simpa using ha, hspecial, rfl, hl, hd⟩
            · cases h
          · cases h

/-- The file in the place that a path names is found under the path, once it is there. -/
theorem locate?_of_slot? {t u : FileTree} (h : t.Spares u) {p : Path} {s : Slot}
    (hs : t.slot? p = some s) (hn : (u.node? s.location).isSome) :
    u.locate? p = some s.location := by
  obtain ⟨last, hlast, ha, hspecial, hname, hf, hd⟩ := slot?_eq_some hs
  have hstep : u.step? s.directory last = some s.location := by
    refine step?_eq_some_iff.2 ⟨h.directory _ hd, .inr (.inr ⟨hspecial, ?_, hn⟩)⟩
    rw [Slot.location, hname]
  have hpieces : Path.pieces p.text.toList = (Path.pieces p.text.toList).dropLast ++ [last] :=
    (List.dropLast_append_getLast? _ hlast).symm
  refine locate?_eq_some_iff.2 ⟨ha, ?_⟩
  rw [hpieces, h.startOf_eq, follow?_concat, h.follow? hf hd, Option.bind_some]
  exact hstep

end Spares

theorem fileSlot?_eq_some {t : FileTree} {p : Path} {s : Slot} (h : t.fileSlot? p = some s) :
    t.slot? p = some s ∧ t.isDirectoryAt s.location = false := by
  unfold fileSlot? at h
  split at h
  · next s' hs =>
    split at h
    · cases h
    · next hd =>
      obtain rfl := Option.some.inj h
      exact ⟨hs, by simpa using hd⟩
  · cases h

/-- A node that is put in a place of a directory lies there. -/
theorem node?_link {t : FileTree} {s : Slot} (h : t.isDirectoryAt s.directory) {n : Node}
    (hn : n.Tidy) : (t.link s n hn).node? s.location = some n := by
  unfold isDirectoryAt at h
  cases hd : t.node? s.directory with
  | none => simp [hd] at h
  | some d =>
    cases d with
    | file content modified => simp [hd, Node.isDirectory] at h
    | directory modified es =>
      have hself := node?_change_self (t := t) (f := (·.withEntry t.now s.name n))
        (fun _ h => h.withEntry t.now s.name hn) hd
      rw [link, Slot.location, node?_append, hself, Option.bind_some, Node.withEntry,
        Node.at?_directory, Node.lookup_setEntry_self]
      rfl

theorem node?_putFile {t : FileTree} {s : Slot} (h : t.isDirectoryAt s.directory)
    (content : ByteArray) (modified : Int64) :
    (t.putFile s content modified).node? s.location = some (.file content modified) := by
  unfold putFile
  split
  · next hs =>
    obtain ⟨n, hn⟩ := Option.isSome_iff_exists.1 hs
    exact node?_change_self _ hn
  · exact node?_link h _

/-- A file that has been written is found under its path, in the place that the path names. -/
theorem locate?_of_write? {t u : FileTree} {p : Path} {content : ByteArray}
    (h : t.write? p content = some u) :
    ∃ s, t.fileSlot? p = some s ∧ t.Spares u ∧ u.locate? p = some s.location ∧
      u.node? s.location = some (.file content t.now) := by
  obtain ⟨s, hs, rfl⟩ := Option.map_eq_some_iff.1 h
  obtain ⟨hslot, hfile⟩ := fileSlot?_eq_some hs
  obtain ⟨-, -, -, -, -, -, hd⟩ := Spares.slot?_eq_some hslot
  have hspares := Spares.putFile hfile content t.now
  have hnode := node?_putFile hd content t.now
  exact ⟨s, hs, hspares, hspares.locate?_of_slot? hslot (by rw [hnode]; rfl), hnode⟩

/-- A file that has been written is found under its path, and all directories stay. -/
theorem write?_eq_some {t u : FileTree} {p : Path} {content : ByteArray}
    (h : t.write? p content = some u) :
    t.Spares u ∧ ∃ l, u.locate? p = some l ∧ u.isDirectoryAt l = false ∧
      u.node? l = some (.file content t.now) := by
  obtain ⟨s, -, hspares, hl, hnode⟩ := locate?_of_write? h
  refine ⟨hspares, s.location, hl, ?_, hnode⟩
  rw [isDirectoryAt, hnode]
  rfl

theorem slotOf?_eq_some {l : Location} {s : Slot} (h : slotOf? l = some s) : s.location = l := by
  obtain ⟨name, hname, rfl⟩ := Option.map_eq_some_iff.1 h
  exact List.dropLast_append_getLast? _ hname

theorem slotOf?_location (s : Slot) : slotOf? s.location = some s := by
  rw [slotOf?, Slot.location, List.getLast?_concat, List.dropLast_concat]
  rfl

/-- A file can be moved to the place that a path names for it. -/
theorem rename?_eq_some_iff {t u : FileTree} {source target : Path} :
    t.rename? source target = some u ↔
      ∃ old new content modified, (t.locate? source).bind slotOf? = some old ∧
        t.fileSlot? target = some new ∧ t.node? old.location = some (.file content modified) ∧
        u = (t.unlink old).link new (.file content modified) (.file content modified) := by
  unfold rename?
  constructor
  · intro h
    obtain ⟨old, hold, h⟩ := Option.bind_eq_some_iff.1 h
    obtain ⟨new, hnew, h⟩ := Option.bind_eq_some_iff.1 h
    split at h
    next content modified hn =>
      exact ⟨old, new, content, modified, hold, hnew, hn, (Option.some.inj h).symm⟩
    next => cases h
  · rintro ⟨old, new, content, modified, hold, hnew, hn, rfl⟩
    refine Option.bind_eq_some_iff.2 ⟨old, hold, Option.bind_eq_some_iff.2 ⟨new, hnew, ?_⟩⟩
    rw [hn]

/-- A file that has been moved is found under the other path, and all directories stay. -/
theorem rename?_eq_some {t u : FileTree} {source target : Path}
    (h : t.rename? source target = some u) {l : Location} (hl : t.locate? source = some l)
    {content : ByteArray} {modified : Int64} (hn : t.node? l = some (.file content modified)) :
    t.Spares u ∧ ∃ k, u.locate? target = some k ∧ u.node? k = some (.file content modified) := by
  obtain ⟨old, new, content', modified', hold, hnew, hn', rfl⟩ := rename?_eq_some_iff.1 h
  rw [hl] at hold
  have hlocation : old.location = l := slotOf?_eq_some hold
  rw [hlocation, hn] at hn'
  obtain ⟨rfl, rfl⟩ := Node.file.inj (Option.some.inj hn')
  obtain ⟨hslot, hfile⟩ := fileSlot?_eq_some hnew
  obtain ⟨-, -, -, -, -, -, hd⟩ := Spares.slot?_eq_some hslot
  have holdFile : t.isDirectoryAt old.location = false := by
    rw [isDirectoryAt, hlocation, hn]
    rfl
  have hunlink := Spares.unlink holdFile
  have hnewFile : (t.unlink old).isDirectoryAt new.location = false := by
    rw [Bool.eq_false_iff] at hfile ⊢
    exact mt ((Spares.of_change _ fun _ _ => .of_withoutEntry _ _ _).directory _) hfile
  have hspares := hunlink.trans (Spares.link hnewFile (.file content modified))
  have hnode := node?_link (hunlink.directory _ hd) (Node.Tidy.file content modified)
  exact ⟨hspares, new.location, hspares.locate?_of_slot? hslot (by rw [hnode]; rfl), hnode⟩

end FileTree

end StoredRoutines
