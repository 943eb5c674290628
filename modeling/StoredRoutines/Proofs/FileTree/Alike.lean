import Mathlib.Data.List.DropRight
import StoredRoutines.Proofs.FileTree.Keeping

/-!
# Trees with the same directories

Where a path puts a file depends on the directories only. What has been done once to a tree can
therefore be done again to every tree with the same directories.

## Main definitions

- `FileTree.Alike` — two trees have the same directories

## Main results

- `FileTree.Alike.slot?_eq`, `FileTree.Alike.fileSlot?_eq` — paths name the same places in them
- `FileTree.alike_write?`, `FileTree.alike_rename?` — writing and moving a file
- `FileTree.makeDirectories_again` — directories that have been made are found
-/

namespace StoredRoutines

namespace Node

theorem Spares.of_withEntry {n c : Node} (hc : c.isDirectory = false) (time : Int64)
    (name : String) : (n.withEntry time name c).Spares n := by
  cases n with
  | file content modified => exact .refl _
  | directory modified es =>
    refine .directory fun other child hchild hd => ?_
    by_cases ho : other = name
    · subst ho
      rw [lookup_setEntry_self] at hchild
      obtain rfl := Option.some.inj hchild
      rw [hc] at hd
      cases hd
    · rw [lookup_setEntry_of_ne ho] at hchild
      exact ⟨child, hchild, .refl child⟩

theorem Spares.of_file {n m : Node} (h : n.isDirectory = false) : n.Spares m := fun l hl => by
  rw [hasDirectory_of_file h] at hl
  cases hl

theorem tidy_empty (time : Int64) : (directory time []).Tidy :=
  .directory time List.nodup_nil nofun

end Node

namespace FileTree

variable {t u v : FileTree} {p : Path}

/-! ### Places -/

theorem Spares.slot? (h : t.Spares u) {s : Slot} (hs : t.slot? p = some s) :
    u.slot? p = some s := by
  obtain ⟨last, hlast, -, -, hname, hfollow, hd⟩ := Spares.slot?_eq_some hs
  unfold FileTree.slot? at hs ⊢
  simp only [hlast, hfollow, hd, if_true, h.startOf_eq, h.follow? hfollow hd,
    h.directory _ hd] at hs ⊢
  exact hs

/-- Two trees that have the same directories, and in which relative paths start at the same
    place. -/
structure Alike (t u : FileTree) : Prop where
  spares : t.Spares u
  spared : u.Spares t

namespace Alike

theorem refl (t : FileTree) : Alike t t := ⟨.refl t, .refl t⟩

theorem trans (h : Alike t u) (h' : Alike u v) : Alike t v :=
  ⟨h.spares.trans h'.spares, h'.spared.trans h.spared⟩

theorem isDirectoryAt_eq (h : Alike t u) (l : Location) : u.isDirectoryAt l = t.isDirectoryAt l :=
  Bool.eq_iff_iff.2 ⟨h.spared.directory l, h.spares.directory l⟩

theorem slot?_eq (h : Alike t u) (p : Path) : u.slot? p = t.slot? p := by
  cases ht : t.slot? p with
  | some s => exact h.spares.slot? ht
  | none =>
    cases hu : u.slot? p with
    | none => rfl
    | some s => exact absurd (ht.symm.trans (h.spared.slot? hu)) nofun

theorem fileSlot?_eq (h : Alike t u) (p : Path) : u.fileSlot? p = t.fileSlot? p := by
  unfold fileSlot?
  rw [h.slot?_eq p]
  simp only [h.isDirectoryAt_eq]

end Alike

/-! ### Changes of files -/

theorem alike_link {s : Slot} (hs : t.isDirectoryAt s.location = false) {n : Node} (hn : n.Tidy)
    (hfile : n.isDirectory = false) : Alike t (t.link s n hn) :=
  ⟨.link hs hn, .of_change _ fun _ _ => .of_withEntry hfile _ _⟩

theorem alike_unlink {s : Slot} (hs : t.isDirectoryAt s.location = false) : Alike t (t.unlink s) :=
  ⟨.unlink hs, .of_change _ fun _ _ => .of_withoutEntry _ _ _⟩

theorem alike_write? {content : ByteArray} (h : t.write? p content = some u) : Alike t u := by
  obtain ⟨s, hs, rfl⟩ := Option.map_eq_some_iff.1 h
  obtain ⟨-, hfile⟩ := fileSlot?_eq_some hs
  refine ⟨.putFile hfile _ _, ?_⟩
  unfold putFile
  split
  · exact .of_change _ fun _ _ => .of_file rfl
  · exact (alike_link hfile _ rfl).spared

theorem alike_rename? {source target : Path} (h : t.rename? source target = some u) :
    Alike t u := by
  obtain ⟨old, new, content, modified, -, hnew, hn, rfl⟩ := rename?_eq_some_iff.1 h
  have hold : t.isDirectoryAt old.location = false := by
    rw [isDirectoryAt, hn]
    rfl
  have hunlink := alike_unlink hold
  refine hunlink.trans (alike_link ?_ _ rfl)
  rw [hunlink.isDirectoryAt_eq]
  exact (fileSlot?_eq_some hnew).2

/-- What has been written under one path and moved to another can be written and moved again. -/
theorem rename?_again {source target : Path} {content : ByteArray}
    (hu : t.write? source content = some u) (hv : u.rename? source target = some v) {w : FileTree}
    (hw : Alike v w) :
    ∃ x y, w.write? source content = some x ∧ x.rename? source target = some y := by
  obtain ⟨s, hs, -, -, -⟩ := locate?_of_write? hu
  obtain ⟨-, new, -, -, -, hnew, -, -⟩ := rename?_eq_some_iff.1 hv
  have huw : Alike u w := (alike_rename? hv).trans hw
  have hx : w.write? source content = some (w.putFile s content w.now) := by
    rw [write?, ((alike_write? hu).trans huw).fileSlot?_eq, hs]
    rfl
  obtain ⟨s', -, -, hl, hn⟩ := locate?_of_write? hx
  refine ⟨_, _, hx, rename?_eq_some_iff.2 ⟨s', new, content, w.now, ?_, ?_, hn, rfl⟩⟩
  · rw [hl]
    exact slotOf?_location s'
  · rw [(huw.trans (alike_write? hx)).fileSlot?_eq, hnew]

/-! ### Directories -/

/-- The directories along a way that leads to one need not be made. -/
theorem makeAlong_of_follow? {l m : Location} {ps : List (List Char)}
    (h : t.follow? l ps = some m) (hm : t.isDirectoryAt m) : t.makeAlong l ps = (true, t) := by
  induction ps generalizing l with
  | nil =>
    obtain rfl : l = m := Option.some.inj h
    rw [makeAlong, hm]
  | cons p ps ih =>
    rw [follow?_cons] at h
    obtain ⟨next, hstep, hrest⟩ := Option.bind_eq_some_iff.1 h
    rw [makeAlong, hstep]
    exact ih hrest

/-- A step can be taken once there is something to step to. -/
theorem step?_link {l : Location} {piece : List Char} (hstep : t.step? l piece = none)
    (hl : t.isDirectoryAt l) {n : Node} (hn : n.Tidy) :
    (t.link ⟨l, String.ofList piece⟩ n hn).step? l piece = some (l ++ [String.ofList piece]) := by
  have hfree := step?_eq_none hstep hl
  have hspares : t.Spares (t.link ⟨l, String.ofList piece⟩ n hn) := .link (by
    rw [Slot.location, isDirectoryAt, hfree]) hn
  have hspecial : ¬ Special piece := by
    rintro (rfl | rfl | rfl)
    · rw [step?_eq_some_iff.2 ⟨hl, .inl ⟨.inl rfl, rfl⟩⟩] at hstep
      cases hstep
    · rw [step?_eq_some_iff.2 ⟨hl, .inl ⟨.inr rfl, rfl⟩⟩] at hstep
      cases hstep
    · rw [step?_eq_some_iff.2 ⟨hl, .inr (.inl ⟨rfl, rfl⟩)⟩] at hstep
      cases hstep
  have hnode := node?_link (s := ⟨l, String.ofList piece⟩) hl hn
  refine step?_eq_some_iff.2 ⟨hspares.directory l hl, .inr (.inr ⟨hspecial, rfl, ?_⟩)⟩
  rw [show l ++ [String.ofList piece] = Slot.location ⟨l, String.ofList piece⟩ from rfl, hnode]
  rfl

/-- Directories that have been made along a way lead to the last one. -/
theorem follow?_of_makeAlong {l : Location} {ps : List (List Char)}
    (h : t.makeAlong l ps = (true, v)) : ∃ m, v.follow? l ps = some m ∧ v.isDirectoryAt m := by
  induction ps generalizing t l with
  | nil =>
    obtain ⟨hl, rfl⟩ := Prod.mk.inj h
    exact ⟨l, rfl, hl⟩
  | cons p ps ih =>
    rw [makeAlong] at h
    cases hstep : t.step? l p with
    | some next =>
      -- the next directory is there already
      simp only [hstep] at h
      have hkeeps := keeps_makeAlong (fun _ => False) t next ps
      rw [h] at hkeeps
      obtain ⟨m, hm, hd⟩ := ih h
      refine ⟨m, ?_, hd⟩
      rw [follow?_cons, hkeeps.step? hstep]
      exact hm
    | none =>
      -- the next directory is made, and it stays while the others are made
      simp only [hstep] at h
      split at h
      next hmake =>
        have hl : t.isDirectoryAt l := (Bool.and_eq_true_iff.1 hmake).1
        have hmade := step?_link hstep hl (Node.tidy_empty t.now)
        have hkeeps := keeps_makeAlong (fun _ => False)
          (t.link ⟨l, String.ofList p⟩ (.directory t.now []) (Node.tidy_empty t.now))
          (l ++ [String.ofList p]) ps
        have hv : FileTree.makeAlong _ (l ++ [String.ofList p]) ps = (true, v) := h
        rw [hv] at hkeeps
        obtain ⟨m, hm, hd⟩ := ih hv
        refine ⟨m, ?_, hd⟩
        rw [follow?_cons, hkeeps.step? hmade]
        exact hm
      next => cases h

/-- A way to a directory leads through directories. -/
theorem follow?_partway {l m : Location} {ps qs : List (List Char)}
    (h : t.follow? l ps = some m) (hm : t.isDirectoryAt m) (hqs : qs <+: ps) :
    ∃ k, t.follow? l qs = some k ∧ t.isDirectoryAt k := by
  obtain ⟨rest, rfl⟩ := hqs
  rw [follow?, List.foldlM_append] at h
  obtain ⟨k, hk, hrest⟩ := Option.bind_eq_some_iff.1 h
  exact ⟨k, hk, Spares.isDirectoryAt_of_follow? hrest hm⟩

/-- A path is one of a directory if it leads to a directory. -/
theorem isDirectory_iff :
    t.isDirectory p ↔ ∃ l, t.locate? p = some l ∧ t.isDirectoryAt l := by
  unfold isDirectory
  cases t.locate? p with
  | none => simp
  | some l => simp

/-- Directories that have been made need not be made again. -/
theorem makeDirectories_again (h : t.makeDirectories p = (true, v)) (hu : v.Spares u) :
    u.makeDirectories p = (true, u) := by
  have hstart : u.startOf p = t.startOf p := by
    have hkeeps := keeps_makeDirectories (fun _ => False) t p
    rw [h] at hkeeps
    exact (hkeeps.spares.trans hu).startOf_eq p
  unfold makeDirectories at h ⊢
  simp only at h ⊢
  split
  next => rfl
  next hempty =>
  rw [if_neg hempty] at h
  split
  next haccepts =>
    rw [if_pos haccepts] at h
    cases h
  next haccepts =>
  rw [if_neg haccepts] at h
  split
  next hlast =>
    rw [if_pos hlast] at h
    obtain ⟨hdirectory, hv⟩ := Prod.mk.inj h
    rw [hv] at hdirectory
    obtain ⟨l, hl, hd⟩ := isDirectory_iff.1 hdirectory
    obtain ⟨haccepts, hfollow⟩ := locate?_eq_some_iff.1 hl
    -- the directories that are made lie on the way to the one that has to be there
    have hnamed := List.rdropWhile_prefix (fun q => decide (q = [] ∨ q = ['.']))
      (Path.pieces p.text.toList)
    have hway := List.IsPrefix.trans ( List.dropLast_prefix _) hnamed
    obtain ⟨k, hk, hkd⟩ := follow?_partway hfollow hd hway
    have hsame : u.makeAlong (u.startOf p) _ = (true, u) :=
      makeAlong_of_follow? ((hu.startOf_eq p).symm ▸ hu.follow? hk hkd) (hu.directory k hkd)
    have hfound : u.isDirectory p = true := isDirectory_iff.2 ⟨l, locate?_eq_some_iff.2
      ⟨haccepts, (hu.startOf_eq p).symm ▸ hu.follow? hfollow hd⟩, hu.directory l hd⟩
    rw [List.rdropWhile] at hsame
    rw [hsame, hfound]
  next hlast =>
    rw [if_neg hlast] at h
    obtain ⟨m, hm, hd⟩ := follow?_of_makeAlong h
    rw [hstart]
    exact makeAlong_of_follow? (hu.follow? hm hd) (hu.directory m hd)

end FileTree

end StoredRoutines
