import StoredRoutines.Proofs.FileTree.Keeping

/-!
# The content of files

A change at one place leaves the files elsewhere as they were. Making directories leaves all files,
and writing leaves all but the one that is written.

## Main definitions

- `FileTree.fileAt?`, `FileTree.content?` — the file at a location, and the bytes under a path
- `FileTree.ComesToLight` — a path that goes up comes to lead to a file

## Main results

- `FileTree.Spares.content?` — bytes that are still there are found under their path
- `FileTree.fileAt?_makeDirectories`, `FileTree.write?_files` — the files after a change
- `FileTree.locate?_of_file` — a path that does not go up leads to a file wherever the file is
- `FileTree.Keeps.content?_eq_or` — what else may become of the bytes under a path
-/

namespace StoredRoutines

namespace Node

/-- The bytes and the time of a file. -/
def file? : Node → Option (ByteArray × Int64)
  | file content modified => some (content, modified)
  | directory .. => none

/-- The file at a location below a node. -/
def fileAt? (n : Node) (l : Location) : Option (ByteArray × Int64) :=
  (n.at? l).bind file?

theorem fileAt?_directory (modified : Int64) (es : List (String × Node)) (name : String)
    (l : Location) :
    (directory modified es).fileAt? (name :: l) =
      (es.lookup name).bind fun child => child.fileAt? l := by
  rw [fileAt?, at?_directory]
  cases es.lookup name <;> rfl

theorem fileAt?_append (n : Node) (l k : Location) :
    n.fileAt? (l ++ k) = (n.at? l).bind fun m => m.fileAt? k := by
  rw [fileAt?, at?_append]
  cases n.at? l <;> rfl

/-- A change leaves a file if it does so at the node it is made at. -/
theorem fileAt?_changeAt {f : Node → Node} {n : Node} {d l : Location}
    (h : ∀ m k, n.at? d = some m → l = d ++ k → (f m).fileAt? k = m.fileAt? k) :
    (n.changeAt f d).fileAt? l = n.fileAt? l := by
  induction d generalizing n l with
  | nil => exact h n l rfl rfl
  | cons name d ih =>
    cases n with
    | file content modified => rfl
    | directory modified es =>
      rw [changeAt]
      cases hn : es.lookup name with
      | none => rfl
      | some child =>
        cases l with
        | nil => rfl
        | cons first l =>
          rw [fileAt?_directory, fileAt?_directory]
          -- the change is made below the entry, or the entry is another one
          by_cases hfirst : first = name
          · subst hfirst
            rw [lookup_setEntry_self, hn]
            refine ih fun m k hm hk => h m k ?_ (by rw [hk]; rfl)
            rw [at?_directory, hn]
            exact hm
          · rw [lookup_setEntry_of_ne hfirst]

/-- Putting a node in a place of a directory leaves the files in all other places. -/
theorem fileAt?_withEntry {n c : Node} {time : Int64} {name : String} {l : Location}
    (h : ¬ [name] <+: l) : (n.withEntry time name c).fileAt? l = n.fileAt? l := by
  cases n with
  | file content modified => rfl
  | directory modified es =>
    cases l with
    | nil => rfl
    | cons first l =>
      have hfirst : first ≠ name := by
        rintro rfl
        exact h (List.cons_prefix_cons.2 ⟨rfl, List.nil_prefix⟩)
      rw [withEntry, fileAt?_directory, fileAt?_directory, lookup_setEntry_of_ne hfirst]

/-- A new directory brings no files. -/
theorem fileAt?_withDirectory {n : Node} {name : String} (hfree : n.at? [name] = none)
    (time time' : Int64) (l : Location) :
    (n.withEntry time name (directory time' [])).fileAt? l = n.fileAt? l := by
  by_cases h : [name] <+: l
  · obtain ⟨k, rfl⟩ := h
    rw [fileAt?_append n, hfree]
    cases n with
    | file content modified => rfl
    | directory modified es =>
      rw [List.singleton_append, withEntry, fileAt?_directory, lookup_setEntry_self]
      cases k <;> rfl
  · exact fileAt?_withEntry h

/-- Nothing lies below a file. -/
theorem fileAt?_file (content : ByteArray) (modified : Int64) (l : Location) :
    (file content modified).fileAt? l = if l = [] then some (content, modified) else none := by
  rw [fileAt?, at?_file]
  split <;> rfl

end Node

namespace FileTree

/-- The bytes and the time of the file at a location. -/
def fileAt? (t : FileTree) (l : Location) : Option (ByteArray × Int64) :=
  t.root.fileAt? l

/-- The bytes of the file that a path leads to. -/
def content? (t : FileTree) (p : Path) : Option ByteArray :=
  (t.locate? p).bind fun l => (t.fileAt? l).map (·.1)

variable {t u : FileTree} {p : Path} {l : Location}

theorem fileAt?_append (t : FileTree) (l k : Location) :
    t.fileAt? (l ++ k) = (t.node? l).bind fun n => n.fileAt? k :=
  Node.fileAt?_append t.root l k

theorem fileAt?_of_node? {content : ByteArray} {modified : Int64}
    (h : t.node? l = some (.file content modified)) : t.fileAt? l = some (content, modified) := by
  rw [fileAt?, Node.fileAt?]
  change (t.node? l).bind _ = _
  rw [h]
  rfl

theorem node?_of_fileAt? {file : ByteArray × Int64} (h : t.fileAt? l = some file) :
    t.node? l = some (.file file.1 file.2) := by
  obtain ⟨n, hn, hfile⟩ := Option.bind_eq_some_iff.1 h
  cases n with
  | file content modified =>
    obtain rfl := Option.some.inj hfile
    exact hn
  | directory modified es => cases hfile

theorem fileAt?_of_isDirectoryAt (h : t.isDirectoryAt l) : t.fileAt? l = none := by
  cases hfile : t.fileAt? l with
  | none => rfl
  | some file =>
    rw [isDirectoryAt, node?_of_fileAt? hfile] at h
    cases h

/-- The content of a path is that of the file to which it leads. -/
theorem content?_eq_some {content : ByteArray} :
    t.content? p = some content ↔
      ∃ l modified, t.locate? p = some l ∧ t.fileAt? l = some (content, modified) := by
  unfold content?
  constructor
  · intro h
    obtain ⟨l, hl, h⟩ := Option.bind_eq_some_iff.1 h
    obtain ⟨⟨_, modified⟩, hfile, rfl⟩ := Option.map_eq_some_iff.1 h
    exact ⟨l, modified, hl, hfile⟩
  · rintro ⟨l, modified, hl, hfile⟩
    rw [hl, Option.bind_some, hfile]
    rfl

/-- The text under a path is what the bytes under it spell. -/
theorem readText?_eq (t : FileTree) (p : Path) :
    t.readText? p = (t.content? p).bind String.fromUTF8? := by
  unfold readText? content?
  cases t.locate? p with
  | none => rfl
  | some l =>
    rw [Option.bind_some, Option.bind_some]
    unfold textAt? fileAt? Node.fileAt?
    change _ = (((t.node? l).bind _).map _).bind _
    cases t.node? l with
    | none => rfl
    | some n => cases n <;> rfl

/-! ### Paths that lead to files -/

/-- As long as the directories on its way stay, a path leads where it led. -/
theorem Spares.locate? (h : t.Spares u) (hl : t.locate? p = some l) (hn : (u.node? l).isSome) :
    u.locate? p = some l := by
  obtain ⟨haccepts, hl⟩ := locate?_eq_some_iff.1 hl
  refine locate?_eq_some_iff.2 ⟨haccepts, ?_⟩
  rw [h.startOf_eq]
  obtain ⟨init, last, -, hpieces⟩ := pieces_append (s := p.text.toList) (r := []) nofun
  rw [List.append_nil, List.append_nil] at hpieces
  rw [hpieces, follow?_concat] at hl ⊢
  obtain ⟨d, hd, hstep⟩ := Option.bind_eq_some_iff.1 hl
  obtain ⟨hdirectory, hcase⟩ := step?_eq_some_iff.1 hstep
  rw [h.follow? hd hdirectory, Option.bind_some]
  refine step?_eq_some_iff.2 ⟨h.directory d hdirectory, ?_⟩
  exact hcase.imp_right fun hcase => hcase.imp_right fun ⟨hspecial, hname, _⟩ =>
    ⟨hspecial, hname, hn⟩

/-- The bytes of a file that stays are found under the paths that led to it. -/
theorem Spares.content? (h : t.Spares u) {content : ByteArray} (hp : t.content? p = some content)
    (hfile : ∀ l, t.locate? p = some l → u.fileAt? l = t.fileAt? l) :
    u.content? p = some content := by
  obtain ⟨l, modified, hl, hcontent⟩ := content?_eq_some.1 hp
  have hsame := (hfile l hl).trans hcontent
  exact content?_eq_some.2
    ⟨l, modified, h.locate? hl (by rw [node?_of_fileAt? hsame]; rfl), hsame⟩

/-- There are directories on the way to a node. -/
theorem isDirectoryAt_above {k : Location} (hn : (t.node? l).isSome) (hk : k <+: l)
    (hne : k ≠ l) : t.isDirectoryAt k := by
  obtain ⟨_ | ⟨name, rest⟩, rfl⟩ := hk
  · exact absurd (List.append_nil k).symm hne
  obtain ⟨n, hn⟩ := Option.isSome_iff_exists.1 hn
  rw [node?_append] at hn
  obtain ⟨d, hd, hchild⟩ := Option.bind_eq_some_iff.1 hn
  rw [isDirectoryAt, hd]
  cases d with
  | file content modified => cases hchild
  | directory modified es => rfl

theorem node?_isSome_above {k : Location} (hn : (t.node? l).isSome) (hk : k <+: l) :
    (t.node? k).isSome := by
  by_cases hne : k = l
  · rwa [hne]
  · exact node?_isSome_of_isDirectoryAt (isDirectoryAt_above hn hk hne)

/-- A path that does not go up only goes down. -/
theorem prefix_of_follow? {k : Location} {ps : List (List Char)} (h : t.follow? k ps = some l)
    (hup : ['.', '.'] ∉ ps) : k <+: l := by
  induction ps generalizing k with
  | nil =>
    obtain rfl : k = l := Option.some.inj h
    exact List.prefix_rfl
  | cons p ps ih =>
    rw [follow?_cons] at h
    obtain ⟨next, hstep, hrest⟩ := Option.bind_eq_some_iff.1 h
    have hnext := ih hrest fun hmem => hup (List.mem_cons_of_mem _ hmem)
    obtain ⟨-, ⟨-, rfl⟩ | ⟨rfl, -⟩ | ⟨-, rfl, -⟩⟩ := step?_eq_some_iff.1 hstep
    · exact hnext
    · exact absurd List.mem_cons_self hup
    · exact (List.prefix_append k _).trans hnext

/-- A path without steps up that leads to a file leads there in every tree that has the file. -/
theorem follow?_of_file {k : Location} {ps : List (List Char)} {file file' : ByteArray × Int64}
    (h : u.follow? k ps = some l) (hup : ['.', '.'] ∉ ps) (hu : u.fileAt? l = some file)
    (ht : t.fileAt? l = some file') : t.follow? k ps = some l := by
  induction ps generalizing k with
  | nil => exact h
  | cons p ps ih =>
    have hrestUp : ['.', '.'] ∉ ps := fun hmem => hup (List.mem_cons_of_mem _ hmem)
    have hdown := prefix_of_follow? h hup
    rw [follow?_cons] at h ⊢
    obtain ⟨next, hstep, hrest⟩ := Option.bind_eq_some_iff.1 h
    have hnode : (t.node? l).isSome := by
      rw [node?_of_fileAt? ht]
      rfl
    obtain ⟨hk, hcase⟩ := step?_eq_some_iff.1 hstep
    -- the step is taken in a directory, and the path ends at a file
    have hne : k ≠ l := by
      rintro rfl
      rw [fileAt?_of_isDirectoryAt hk] at hu
      cases hu
    have hstep' : t.step? k p = some next := by
      refine step?_eq_some_iff.2 ⟨isDirectoryAt_above hnode hdown hne, ?_⟩
      exact hcase.imp_right fun hcase => hcase.imp_right fun ⟨hspecial, hname, _⟩ =>
        ⟨hspecial, hname, node?_isSome_above hnode (prefix_of_follow? hrest hrestUp)⟩
    rw [hstep', Option.bind_some]
    exact ih hrest hrestUp

/-- A path that does not go up leads to a file in every tree in which the file is there. -/
theorem locate?_of_file (hstart : u.workingDirectory = t.workingDirectory)
    {file file' : ByteArray × Int64} (hl : u.locate? p = some l)
    (hup : ['.', '.'] ∉ Path.pieces p.text.toList) (hu : u.fileAt? l = some file)
    (ht : t.fileAt? l = some file') : t.locate? p = some l := by
  have hstart : u.startOf p = t.startOf p := by
    unfold startOf
    rw [hstart]
  obtain ⟨haccepts, hl⟩ := locate?_eq_some_iff.1 hl
  rw [hstart] at hl
  refine locate?_eq_some_iff.2 ⟨haccepts, ?_⟩
  exact follow?_of_file hl hup hu ht

/-! ### Files after a change -/

theorem fileAt?_change {d : Location} {f : Node → Node} (hf : ∀ n : Node, n.Tidy → (f n).Tidy)
    (h : ∀ m k, t.node? d = some m → l = d ++ k → (f m).fileAt? k = m.fileAt? k) :
    (t.change d f hf).fileAt? l = t.fileAt? l :=
  Node.fileAt?_changeAt h

theorem fileAt?_link {s : Slot} {n : Node} (hn : n.Tidy) (h : ¬ s.location <+: l) :
    (t.link s n hn).fileAt? l = t.fileAt? l := by
  refine fileAt?_change _ fun m k _ hl => Node.fileAt?_withEntry fun hk => h ?_
  rw [hl]
  exact (List.prefix_append_right_inj _).2 hk

/-- Making directories leaves all files. -/
theorem fileAt?_makeAlong (t : FileTree) (k : Location) (ps : List (List Char)) (l : Location) :
    (t.makeAlong k ps).2.fileAt? l = t.fileAt? l := by
  induction ps generalizing t k with
  | nil => rfl
  | cons p ps ih =>
    rw [makeAlong]
    cases hstep : t.step? k p with
    | some next => exact ih t next
    | none =>
      simp only
      split
      · next hmake =>
        have hk : t.isDirectoryAt k := (Bool.and_eq_true_iff.1 hmake).1
        have hfree := step?_eq_none hstep hk
        refine (ih _ _).trans (fileAt?_change _ fun m j hm _ => ?_)
        rw [node?_append, hm] at hfree
        exact Node.fileAt?_withDirectory hfree _ _ _
      · rfl

theorem fileAt?_makeDirectories (t : FileTree) (p : Path) (l : Location) :
    (t.makeDirectories p).2.fileAt? l = t.fileAt? l := by
  unfold makeDirectories
  simp only
  split
  · rfl
  split
  · rfl
  split
  · exact fileAt?_makeAlong _ _ _ _
  · exact fileAt?_makeAlong _ _ _ _

/-- Writing a file leaves all other files. -/
theorem fileAt?_putFile {s : Slot} (hd : t.isDirectoryAt s.directory)
    (hfile : t.isDirectoryAt s.location = false) (content : ByteArray) (modified : Int64)
    (hl : l ≠ s.location) : (t.putFile s content modified).fileAt? l = t.fileAt? l := by
  have hnode := node?_putFile hd content modified
  by_cases h : s.location <+: l
  -- nothing lies below the place of a file
  · obtain ⟨k, rfl⟩ := h
    have hne : k ≠ [] := by
      rintro rfl
      exact hl (List.append_nil _)
    have hbelow : (t.putFile s content modified).fileAt? (s.location ++ k) = none := by
      rw [fileAt?_append, hnode, Option.bind_some, Node.fileAt?_file, if_neg hne]
    rw [hbelow, fileAt?_append]
    rw [isDirectoryAt] at hfile
    cases hn : t.node? s.location with
    | none => rfl
    | some n =>
      rw [hn] at hfile
      cases n with
      | file c time => rw [Option.bind_some, Node.fileAt?_file, if_neg hne]
      | directory time es => cases hfile
  · unfold putFile
    split
    · exact fileAt?_change _ fun m k _ hk => absurd ⟨k, hk.symm⟩ h
    · exact fileAt?_link _ h

/-- Writing a file spares all other files. -/
theorem write?_files {content : ByteArray} {s : Slot} (h : t.write? p content = some u)
    (hs : t.slot? p = some s) (hl : l ≠ s.location) : u.fileAt? l = t.fileAt? l := by
  obtain ⟨s', hs', rfl⟩ := Option.map_eq_some_iff.1 h
  obtain ⟨hslot, hfile⟩ := fileSlot?_eq_some hs'
  obtain rfl : s' = s := Option.some.inj (hslot.symm.trans hs)
  obtain ⟨-, -, -, -, -, -, hd⟩ := Spares.slot?_eq_some hslot
  exact fileAt?_putFile hd hfile _ _ hl

/-! ### Paths that come to lead to a file -/

/-- A path that led nowhere has come to lead to a file that was there already. It goes up, and a
    directory has been made. -/
structure ComesToLight (t u : FileTree) (p : Path) : Prop where
  before : t.locate? p = none
  up : ['.', '.'] ∈ Path.pieces p.text.toList
  made : ∃ d, u.isDirectoryAt d ∧ t.isDirectoryAt d = false
  after : ∃ l file, u.locate? p = some l ∧ u.fileAt? l = some file ∧ t.fileAt? l = some file

/-- If no file under a path is touched, then the bytes under it stay, unless the path has come to
    lead to another file. -/
theorem Keeps.content?_eq_or {changed : Location → Prop} (h : Keeps changed t u)
    (hfile : ∀ l, ¬ changed l → u.fileAt? l = t.fileAt? l)
    (hp : ∀ l, t.locate? p = some l ∨ u.locate? p = some l → ¬ changed l) :
    u.content? p = t.content? p ∨ ComesToLight t u p := by
  cases ht : t.content? p with
  | some content => exact .inl (h.spares.content? ht fun l hl => hfile l (hp l (.inl hl)))
  | none =>
    cases hu : u.content? p with
    | none => exact .inl rfl
    | some content =>
      refine .inr ?_
      obtain ⟨l, modified, hl, hafter⟩ := content?_eq_some.1 hu
      have hbefore : t.fileAt? l = some (content, modified) :=
        (hfile l (hp l (.inr hl))).symm.trans hafter
      -- the file was there, and so the path did not lead to it
      have hnowhere : t.locate? p ≠ some l := fun hl' => by
        rw [content?_eq_some.2 ⟨l, modified, hl', hbefore⟩] at ht
        cases ht
      refine ⟨?_, ?_, ?_, l, _, hl, hafter, hbefore⟩
      · cases hk : t.locate? p with
        | none => rfl
        | some k =>
          obtain rfl : k = l := Option.some.inj ((h.locate? hk).symm.trans hl)
          exact absurd hk hnowhere
      · by_contra hup
        exact hnowhere (locate?_of_file h.start hl hup hafter hbefore)
      · by_contra hnone
        have hspared : u.Spares t := ⟨fun d hd => by
          by_contra hd'
          exact hnone ⟨d, hd, by simpa using hd'⟩, h.start.symm⟩
        exact hnowhere (hspared.locate? hl (by rw [node?_of_fileAt? hbefore]; rfl))

end FileTree

end StoredRoutines
