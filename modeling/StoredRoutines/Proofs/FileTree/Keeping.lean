import StoredRoutines.Proofs.FileTree

/-!
# Files that stay

Making directories and writing a file leave all other files where they are, with what they hold. A
path that leads to one of them still does.

## Main definitions

- `Node.Kept` — a file as it was, or a directory that still is one
- `FileTree.Keeps` — all nodes are kept, apart from files that may be overwritten

## Main results

- `FileTree.Keeps.locate?`, `FileTree.Keeps.readText?` — paths lead where they led
- `FileTree.keeps_makeDirectories`, `FileTree.write?_keeps` — the operations that keep files
- `FileTree.location_ne_of_slot?` — a path with an extension added leads to another place
-/

namespace StoredRoutines

namespace Node

/-- A file as it was, or a directory that still is one. -/
def Kept (x y : Node) : Prop :=
  match x with
  | file .. => y = x
  | directory .. => y.isDirectory = true

theorem Kept.refl (x : Node) : x.Kept x := by
  cases x <;> rfl

theorem Kept.trans {x y z : Node} (h : x.Kept y) (h' : y.Kept z) : x.Kept z := by
  cases x with
  | file content modified =>
    obtain rfl : y = file content modified := h
    exact h'
  | directory modified es =>
    cases y with
    | file content modified => cases h
    | directory modified es => exact h'

theorem Kept.isDirectory {x y : Node} (h : x.Kept y) : y.isDirectory = x.isDirectory := by
  cases x with
  | file content modified =>
    obtain rfl : y = file content modified := h
    rfl
  | directory modified es => exact h

theorem at?_file (content : ByteArray) (modified : Int64) (l : Location) :
    (file content modified).at? l = if l = [] then some (file content modified) else none := by
  cases l <;> rfl

/-- A node is kept by a change further up, if this change keeps what lies below, and by every
    change elsewhere. -/
theorem kept_changeAt {f : Node → Node} {n x : Node} {d l : Location} (h : n.at? l = some x)
    (hf : ∀ z k, n.at? d = some z → l = d ++ k → ∃ y, (f z).at? k = some y ∧ x.Kept y) :
    ∃ y, (n.changeAt f d).at? l = some y ∧ x.Kept y := by
  induction d generalizing n l with
  | nil => exact hf n l rfl rfl
  | cons name d ih =>
    cases n with
    | file content modified => exact ⟨x, h, .refl x⟩
    | directory modified es =>
      rw [changeAt]
      cases hn : es.lookup name with
      | none => exact ⟨x, h, .refl x⟩
      | some child =>
        cases l with
        | nil =>
          obtain rfl : directory modified es = x := Option.some.inj h
          exact ⟨_, rfl, rfl⟩
        | cons first l =>
          rw [at?_directory] at h ⊢
          -- the change concerns the node only if both lie below the same entry
          by_cases hfirst : first = name
          · subst hfirst
            have hchild : child.at? l = some x := by
              rwa [hn] at h
            obtain ⟨y, hy, hkept⟩ := ih hchild fun z k hz hl =>
              hf z k (by rw [at?_directory, hn]; exact hz) (by rw [hl]; rfl)
            refine ⟨y, ?_, hkept⟩
            rw [lookup_setEntry_self]
            exact hy
          · refine ⟨x, ?_, .refl x⟩
            rw [lookup_setEntry_of_ne hfirst]
            exact h

/-- What lies in a directory is kept when a node is put in a free place. -/
theorem kept_withEntry {n x : Node} {k : Location} (h : n.at? k = some x) {name : String}
    (hfree : n.at? [name] = none) (time : Int64) (c : Node) :
    ∃ y, (n.withEntry time name c).at? k = some y ∧ x.Kept y := by
  cases n with
  | file content modified => exact ⟨x, h, .refl x⟩
  | directory modified es =>
    cases k with
    | nil =>
      obtain rfl : directory modified es = x := Option.some.inj h
      exact ⟨_, rfl, rfl⟩
    | cons first k =>
      rw [at?] at h
      have hne : first ≠ name := by
        rintro rfl
        rw [at?, Option.bind_eq_none_iff] at hfree
        obtain ⟨child, hchild, -⟩ := Option.bind_eq_some_iff.1 h
        cases hfree child hchild
      refine ⟨x, ?_, .refl x⟩
      rw [withEntry, at?_directory, lookup_setEntry_of_ne hne]
      exact h

end Node

namespace FileTree

/-- All nodes of a tree are kept in the other, apart from files that may be overwritten. -/
structure Keeps (changed : Location → Prop) (t u : FileTree) : Prop where
  start : u.workingDirectory = t.workingDirectory
  node : ∀ l x, t.node? l = some x →
    ∃ y, u.node? l = some y ∧ (x.Kept y ∨ changed l ∧ x.isDirectory = false)

namespace Keeps

variable {changed : Location → Prop} {t u v : FileTree}

theorem refl (changed : Location → Prop) (t : FileTree) : Keeps changed t t :=
  ⟨rfl, fun _ x h => ⟨x, h, .inl (.refl x)⟩⟩

theorem trans {unchanged : Location → Prop} (h : Keeps unchanged t u) (h' : Keeps changed u v)
    (hnone : ∀ l, ¬ unchanged l) : Keeps changed t v := by
  refine ⟨h'.start.trans h.start, fun l x hx => ?_⟩
  obtain ⟨y, hy, hkept⟩ := h.node l x hx
  obtain ⟨z, hz, hkept'⟩ := h'.node l y hy
  have hxy := hkept.resolve_right fun hl => hnone l hl.1
  refine ⟨z, hz, hkept'.imp hxy.trans fun ⟨hl, hy⟩ => ⟨hl, ?_⟩⟩
  rw [← hxy.isDirectory]
  exact hy

theorem isDirectoryAt (h : Keeps changed t u) {l : Location} (hl : t.isDirectoryAt l) :
    u.isDirectoryAt l := by
  unfold FileTree.isDirectoryAt at hl ⊢
  cases hx : t.node? l with
  | none => simp [hx] at hl
  | some x =>
    rw [hx] at hl
    obtain ⟨y, hy, hkept | ⟨-, hx⟩⟩ := h.node l x hx
    · rw [hy]
      exact hkept.isDirectory.trans hl
    · exact absurd (hl.symm.trans hx) nofun

theorem spares (h : Keeps changed t u) : t.Spares u :=
  ⟨fun _ hl => h.isDirectoryAt hl, h.start⟩

theorem step? (h : Keeps changed t u) {l m : Location} {piece : List Char}
    (hm : t.step? l piece = some m) : u.step? l piece = some m := by
  obtain ⟨hl, hcase⟩ := step?_eq_some_iff.1 hm
  refine step?_eq_some_iff.2 ⟨h.isDirectoryAt hl, ?_⟩
  rcases hcase with hstay | hup | ⟨hspecial, rfl, hsome⟩
  · exact .inl hstay
  · exact .inr (.inl hup)
  · obtain ⟨x, hx⟩ := Option.isSome_iff_exists.1 hsome
    obtain ⟨y, hy, -⟩ := h.node _ x hx
    exact .inr (.inr ⟨hspecial, rfl, by rw [hy]; rfl⟩)

theorem follow? (h : Keeps changed t u) {l m : Location} {ps : List (List Char)}
    (hm : t.follow? l ps = some m) : u.follow? l ps = some m := by
  induction ps generalizing l with
  | nil => exact hm
  | cons p ps ih =>
    rw [follow?_cons] at hm ⊢
    obtain ⟨next, hnext, hrest⟩ := Option.bind_eq_some_iff.1 hm
    rw [h.step? hnext]
    exact ih hrest

theorem locate? (h : Keeps changed t u) {p : Path} {l : Location} (hl : t.locate? p = some l) :
    u.locate? p = some l := by
  obtain ⟨haccepts, hl⟩ := locate?_eq_some_iff.1 hl
  refine locate?_eq_some_iff.2 ⟨haccepts, ?_⟩
  rw [h.spares.startOf_eq]
  exact h.follow? hl

/-- A text that does not change is read under its path. -/
theorem readText? (h : Keeps changed t u) {p : Path} {text : String}
    (htext : t.readText? p = some text) (hp : ∀ l, t.locate? p = some l → ¬ changed l) :
    u.readText? p = some text := by
  obtain ⟨l, hl, hat⟩ := Option.bind_eq_some_iff.1 htext
  rw [FileTree.readText?, h.locate? hl, Option.bind_some]
  unfold textAt? at hat ⊢
  cases hx : t.node? l with
  | none => simp [hx] at hat
  | some x =>
    obtain ⟨y, hy, hkept⟩ := h.node l x hx
    have hkept := hkept.resolve_right fun h => hp l hl h.1
    rw [hx] at hat
    cases x with
    | file content modified =>
      obtain rfl : y = .file content modified := hkept
      rw [hy]
      exact hat
    | directory modified es => cases hat

/-- A change keeps the tree if it keeps what lies at its place. -/
theorem change {l : Location} {f : Node → Node} (hf : ∀ n : Node, n.Tidy → (f n).Tidy)
    (h : ∀ z k x, t.node? l = some z → z.at? k = some x →
      ∃ y, (f z).at? k = some y ∧ x.Kept y) : Keeps changed t (t.change l f hf) := by
  refine ⟨rfl, fun k x hx => ?_⟩
  obtain ⟨y, hy, hkept⟩ := Node.kept_changeAt hx fun z j hz hk => h z j x hz (by
    have hz : t.node? l = some z := hz
    rw [hk, node?_append, hz] at hx
    exact hx)
  exact ⟨y, hy, .inl hkept⟩

theorem link {s : Slot} (hfree : t.node? s.location = none) {n : Node} (hn : n.Tidy) :
    Keeps changed t (t.link s n hn) := by
  refine .change _ fun z k x hz hx => ?_
  refine Node.kept_withEntry hx ?_ _ _
  rw [Slot.location, node?_append, hz] at hfree
  exact hfree

end Keeps

/-! ### Directories -/

theorem step?_eq_none {t : FileTree} {l : Location} {piece : List Char}
    (h : t.step? l piece = none) (hl : t.isDirectoryAt l) :
    t.node? (l ++ [String.ofList piece]) = none := by
  rw [step?, if_pos hl] at h
  split at h
  · cases h
  split at h
  · cases h
  · simpa using h

theorem keeps_makeAlong (changed : Location → Prop) (t : FileTree) (l : Location)
    (ps : List (List Char)) : Keeps changed t (t.makeAlong l ps).2 := by
  induction ps generalizing t l with
  | nil => exact .refl _ _
  | cons p ps ih =>
    rw [makeAlong]
    cases hstep : t.step? l p with
    | some next => exact ih t next
    | none =>
      simp only
      split
      · next hmake =>
        have hl : t.isDirectoryAt l := (Bool.and_eq_true_iff.1 hmake).1
        have hmade : Keeps (fun _ => False) t (t.link ⟨l, String.ofList p⟩ (.directory t.now [])
            (.directory t.now List.nodup_nil fun _ h => absurd h List.not_mem_nil)) :=
          .link (step?_eq_none hstep hl) _
        exact hmade.trans (ih _ _) fun _ => id
      · exact .refl _ _

theorem keeps_makeDirectories (changed : Location → Prop) (t : FileTree) (p : Path) :
    Keeps changed t (t.makeDirectories p).2 := by
  unfold makeDirectories
  simp only
  split
  · exact .refl _ _
  split
  · exact .refl _ _
  split
  · exact keeps_makeAlong _ _ _ _
  · exact keeps_makeAlong _ _ _ _

/-! ### Files -/

/-- Writing a file keeps everything but the file. -/
theorem write?_keeps {t u : FileTree} {p : Path} {content : ByteArray}
    (h : t.write? p content = some u) :
    ∃ s, t.slot? p = some s ∧ Keeps (· = s.location) t u := by
  obtain ⟨s, hs, rfl⟩ := Option.map_eq_some_iff.1 h
  obtain ⟨hslot, hfile⟩ := fileSlot?_eq_some hs
  obtain ⟨-, -, -, -, -, -, hd⟩ := Spares.slot?_eq_some hslot
  refine ⟨s, hslot, ?_⟩
  have hnode := node?_putFile hd content t.now
  unfold putFile at hnode ⊢
  by_cases hsome : (t.node? s.location).isSome
  -- the file is overwritten, and nothing lies below it
  · rw [if_pos hsome] at hnode ⊢
    obtain ⟨z, hz⟩ := Option.isSome_iff_exists.1 hsome
    have hzfile : z.isDirectory = false := by
      rw [isDirectoryAt, hz] at hfile
      exact hfile
    refine ⟨rfl, fun l x hx => ?_⟩
    by_cases hl : l = s.location
    · subst hl
      obtain rfl : z = x := Option.some.inj (hz.symm.trans hx)
      exact ⟨_, hnode, .inr ⟨rfl, hzfile⟩⟩
    · obtain ⟨y, hy, hkept⟩ := Node.kept_changeAt (f := fun _ => Node.file content t.now) hx
        fun z' k hz' hk => by
          obtain rfl : z = z' := Option.some.inj (hz.symm.trans hz')
          rw [hk, node?_append, hz] at hx
          cases z with
          | directory modified es => cases hzfile
          | file c m =>
            rw [Option.bind_some, Node.at?_file] at hx
            obtain ⟨rfl, -⟩ := Option.ite_none_right_eq_some.1 hx
            exact absurd (by rw [hk, List.append_nil]) hl
      exact ⟨y, hy, .inl hkept⟩
  · rw [if_neg hsome]
    exact .link (by simpa using hsome) _

/-! ### Siblings -/

/-- What is added to a path is added to its last piece. -/
theorem pieces_append {s r : List Char} (hr : '/' ∉ r) :
    ∃ init last, Path.pieces s = init ++ [last] ∧ Path.pieces (s ++ r) = init ++ [last ++ r] := by
  induction s with
  | nil =>
    refine ⟨[], [], rfl, ?_⟩
    induction r with
    | nil => rfl
    | cons c r ih =>
      obtain ⟨hc, hr⟩ := not_or.1 (mt List.mem_cons.2 hr)
      have hpieces := ih hr
      simp only [List.nil_append] at hpieces ⊢
      rw [Path.pieces, hpieces]
      exact fun h => hc h.symm
  | cons c s ih =>
    obtain ⟨init, last, hs, hsr⟩ := ih
    rw [List.cons_append]
    by_cases hc : c = '/'
    · subst hc
      exact ⟨[] :: init, last, by rw [Path.pieces, hs]; rfl, by rw [Path.pieces, hsr]; rfl⟩
    · rw [Path.pieces, Path.pieces, hs, hsr]
      · cases init with
        | nil => exact ⟨[], c :: last, rfl, rfl⟩
        | cons first init => exact ⟨(c :: first) :: init, last, rfl, rfl⟩
      · exact hc
      · exact hc

/-- A path with something added to its end leads to another place. -/
theorem location_ne_of_slot? {t : FileTree} {p : Path} {l : Location} {suffix : String} {s : Slot}
    (hl : t.locate? p = some l) (hs : t.slot? ⟨p.text ++ suffix⟩ = some s)
    (hslash : '/' ∉ suffix.toList) (hsuffix : suffix ≠ "") : l ≠ s.location := by
  obtain ⟨last', hlast', -, -, hname, hfollow, -⟩ := Spares.slot?_eq_some hs
  obtain ⟨init, last, hp, hps⟩ := pieces_append (s := p.text.toList) hslash
  rw [String.toList_append, hps] at hlast' hfollow
  rw [List.getLast?_concat] at hlast'
  rw [List.dropLast_concat] at hfollow
  obtain rfl := Option.some.inj hlast'
  unfold locate? resolve? at hl
  obtain ⟨haccepts, hl⟩ := Option.ite_none_right_eq_some.1 hl
  obtain ⟨hempty, hl⟩ := Option.ite_none_left_eq_some.1 hl
  have hstart : t.startOf ⟨p.text ++ suffix⟩ = t.startOf p := by
    unfold startOf Path.isAbsolute
    rw [String.toList_append]
    cases htext : p.text.toList with
    | nil => exact absurd (by rw [String.isEmpty_iff, ← String.toList_eq_nil_iff, htext]) hempty
    | cons c rest => rfl
  rw [hstart] at hfollow
  rw [hp] at hl
  rw [follow?_concat, hfollow, Option.bind_some] at hl
  -- the last step stays, goes up or goes down to a shorter name
  have hlength : suffix.toList.length ≠ 0 := by
    rw [ne_eq, List.length_eq_zero_iff, String.toList_eq_nil_iff]
    exact hsuffix
  rw [Slot.location, hname]
  rintro rfl
  obtain ⟨-, ⟨-, hstay⟩ | ⟨-, hup⟩ | ⟨-, hdown, -⟩⟩ := step?_eq_some_iff.1 hl
  · have hcount := congrArg List.length hstay
    simp at hcount
  · have hcount := congrArg List.length hup
    simp only [List.length_append, List.length_singleton, List.length_dropLast] at hcount
    omega
  · have hnames := List.append_cancel_left hdown
    have htexts := congrArg (fun names => (names.map String.toList).flatten.length) hnames
    simp at htexts
    exact hsuffix htexts

end FileTree

end StoredRoutines
