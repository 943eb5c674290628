import StoredRoutines.Proofs.Json.Scalar

/-!
# Reading values back

Every JSON value whose numbers are whole is read back from the text it is written as.

## Main definitions

- `Whole` — a value whose numbers are whole
- `ValuesRead`, `ItemsRead`, `MembersRead` — reading undoes writing, for a number of steps

## Main results

- `read?_print` — reading undoes writing
-/

namespace StoredRoutines.Json

/-- A value whose numbers are whole. -/
inductive Whole : Json → Prop where
  | null : Whole .null
  | bool (b : Bool) : Whole (.bool b)
  | int (n : Int) : Whole (.int n)
  | string (text : Option String) : Whole (.string text)
  | array {vs : List Json} (items : ∀ v ∈ vs, Whole v) : Whole (.array vs)
  | object {ms : List (Option String × Json)} (members : ∀ m ∈ ms, Whole m.2) :
      Whole (.object ms)

theorem skipSpace_append {p s : List Char} (hp : p.all isSpace)
    (hs : ∀ c ∈ s.head?, isSpace c = false) : skipSpace (p ++ s) = s := by
  rw [skipSpace, List.dropWhile_append_of_pos (fun c hc => List.all_eq_true.1 hp c hc)]
  cases s with
  | nil => rfl
  | cons c s => simp [hs c rfl]

theorem newLine_all (level : Nat) : (newLine level).all isSpace := by
  simp [newLine, isSpace]

theorem skipSpace_newLine (level : Nat) {s : List Char} (hs : ∀ c ∈ s.head?, isSpace c = false) :
    skipSpace (newLine level ++ s) = s :=
  skipSpace_append (newLine_all level) hs

theorem writeInt_cons (n : Int) :
    ∃ c s, writeInt n = c :: s ∧ ∀ d : Char, d.isDigit = false → d ≠ '-' → c ≠ d := by
  have hn := numeral_toDigits n.natAbs
  unfold writeInt
  split
  · exact ⟨_, _, rfl, fun d _ hne => hne.symm⟩
  · cases hd : Nat.toDigits 10 n.natAbs with
    | nil => exact absurd hd hn.ne_nil
    | cons c s =>
      refine ⟨c, s, rfl, ?_⟩
      rintro _ hnot - rfl
      have hc := hn.digits c (by rw [hd]; exact List.mem_cons_self)
      rw [hnot] at hc
      cases hc

/-- A value starts neither with white space nor with a closing bracket. -/
theorem render_cons {v : Json} (hv : Whole v) (level : Nat) :
    ∃ c s, render level v = c :: s ∧ isSpace c = false ∧ c ≠ ']' := by
  cases hv with
  | null => exact ⟨_, _, rfl, rfl, by decide⟩
  | bool b => cases b <;> exact ⟨_, _, rfl, rfl, by decide⟩
  | int n =>
    obtain ⟨c, s, hs, hc⟩ := writeInt_cons n
    refine ⟨c, s, by rw [Json.int, render, hs], ?_, hc _ rfl (by decide)⟩
    simp [isSpace, hc ' ' rfl (by decide), hc '\t' rfl (by decide), hc '\n' rfl (by decide),
      hc '\r' rfl (by decide)]
  | string text =>
    obtain ⟨inner, hw, -⟩ := string?_writeString text []
    rw [List.append_nil] at hw
    exact ⟨_, _, by rw [render, hw], rfl, by decide⟩
  | array items =>
    cases ‹List Json› <;> exact ⟨_, _, rfl, rfl, by decide⟩
  | object members =>
    cases ‹List (Option String × Json)› <;> exact ⟨_, _, rfl, rfl, by decide⟩

theorem value_int (steps : Nat) (n : Int) {s rest : List Char}
    (hs : skipSpace s = writeInt n ++ rest) (hrest : Follows rest) :
    value (steps + 1) s = some (.int n, rest) := by
  obtain ⟨c, t, ht, hc⟩ := writeInt_cons n
  have hnot : ∀ {d : Char} {u : List Char}, d.isDigit = false → d ≠ '-' →
      writeInt n ++ rest ≠ d :: u := by
    intro d u hd hne h
    rw [ht] at h
    exact hc d hd hne (List.cons.inj h).1
  rw [value, hs]
  split
  · next h => exact absurd h (hnot rfl (by decide))
  · next h => exact absurd h (hnot rfl (by decide))
  · next h => exact absurd h (hnot rfl (by decide))
  · next h => exact absurd h (hnot rfl (by decide))
  · next h => exact absurd h (hnot rfl (by decide))
  · next h => exact absurd h (hnot rfl (by decide))
  · rw [number?_writeInt n hrest]
    rfl

theorem follows_renderItems (level below : Nat) (vs : List Json) (rest : List Char) :
    Follows (renderItems level vs ++ (newLine below ++ rest)) := by
  cases vs with
  | nil => rintro _ ⟨⟩; exact .inr rfl
  | cons v vs => rintro _ ⟨⟩; exact .inl rfl

theorem follows_renderMembers (level below : Nat) (ms : List (Option String × Json))
    (rest : List Char) : Follows (renderMembers level ms ++ (newLine below ++ rest)) := by
  cases ms with
  | nil => rintro _ ⟨⟩; exact .inr rfl
  | cons m ms => rintro _ ⟨⟩; exact .inl rfl

/-- Values are read back with as many steps as they have characters. -/
def ValuesRead (steps : Nat) : Prop :=
  ∀ (v : Json) (level : Nat) (s rest : List Char), Whole v →
    skipSpace s = render level v ++ rest → Follows rest → (render level v).length ≤ steps →
    value steps s = some (v, rest)

/-- The items of a list are read back up to its closing bracket. -/
def ItemsRead (steps : Nat) : Prop :=
  ∀ (v : Json) (vs : List Json) (level below : Nat) (s rest : List Char),
    (∀ w ∈ v :: vs, Whole w) →
    skipSpace s =
      render level v ++ (renderItems level vs ++ (newLine below ++ ']' :: rest)) →
    (render level v).length + (renderItems level vs).length < steps →
    items steps s = some (v :: vs, rest)

/-- The members of an object are read back up to its closing brace. -/
def MembersRead (steps : Nat) : Prop :=
  ∀ (m : Option String × Json) (ms : List (Option String × Json)) (level below : Nat)
    (s rest : List Char), (∀ w ∈ m :: ms, Whole w.2) →
    skipSpace s =
      writeString m.1 ++ (':' :: ' ' :: (render level m.2 ++
        (renderMembers level ms ++ (newLine below ++ '\x7d' :: rest)))) →
    (render level m.2).length + (renderMembers level ms).length < steps →
    members steps s = some (m :: ms, rest)

/-- One more item can be read with one more step. -/
theorem itemsRead_succ {steps : Nat} (hv : ValuesRead steps) (hi : ItemsRead steps) :
    ItemsRead (steps + 1) := by
  intro v vs level below s rest hw hs hlen
  have hvalue := hv v level s _ (hw v List.mem_cons_self) hs
    (follows_renderItems level below vs _) (by omega)
  rw [items, hvalue]
  cases vs with
  | nil =>
    have hskip : skipSpace (renderItems level [] ++ (newLine below ++ ']' :: rest)) =
        ']' :: rest :=
      skipSpace_newLine below (by rintro _ ⟨⟩; rfl)
    simp only [hskip]
  | cons w ws =>
    have hcomma : skipSpace (renderItems level (w :: ws) ++ (newLine below ++ ']' :: rest)) =
        ',' :: (newLine level ++ (render level w ++ (renderItems level ws ++
          (newLine below ++ ']' :: rest)))) := by
      simp [renderItems, skipSpace, isSpace]
    have hrest := hi w ws level below
      (newLine level ++ (render level w ++ (renderItems level ws ++
        (newLine below ++ ']' :: rest)))) rest
      (fun x hx => hw x (List.mem_cons_of_mem _ hx))
      (skipSpace_newLine level (by
        obtain ⟨c, t, ht, hc, -⟩ := render_cons (hw w (by simp)) level
        rw [ht]
        rintro _ ⟨⟩
        exact hc))
      (by simp [renderItems] at hlen; omega)
    simp only [hcomma, hrest, Option.map_some]

/-- One more member can be read with one more step. -/
theorem membersRead_succ {steps : Nat} (hv : ValuesRead steps) (hm : MembersRead steps) :
    MembersRead (steps + 1) := by
  intro m ms level below s rest hw hs hlen
  -- a member is its name, a colon with a blank, and its value
  obtain ⟨inner, hinner, hstring⟩ := string?_writeString m.1
    (':' :: ' ' :: (render level m.2 ++ (renderMembers level ms ++
      (newLine below ++ '\x7d' :: rest))))
  have hwhole := hw m List.mem_cons_self
  have hspace : skipSpace (' ' :: (render level m.2 ++ (renderMembers level ms ++
      (newLine below ++ '\x7d' :: rest)))) = render level m.2 ++ (renderMembers level ms ++
      (newLine below ++ '\x7d' :: rest)) := by
    obtain ⟨c, t, ht, hc, -⟩ := render_cons hwhole level
    rw [ht]
    exact skipSpace_append (p := [' ']) rfl (by rintro _ ⟨⟩; exact hc)
  have hvalue := hv m.2 level _ _ hwhole hspace (follows_renderMembers level below ms _)
    (by omega)
  have hcolon : ∀ t, skipSpace (':' :: t) = ':' :: t := fun t => rfl
  rw [members, hs, hinner]
  simp only [hstring, hcolon, hvalue]
  -- what follows closes the object or is a comma with the next member
  cases ms with
  | nil =>
    have hskip : skipSpace (renderMembers level [] ++ (newLine below ++ '\x7d' :: rest)) =
        '\x7d' :: rest :=
      skipSpace_newLine below (by rintro _ ⟨⟩; rfl)
    simp only [hskip]
  | cons w ws =>
    have hcomma :
        skipSpace (renderMembers level (w :: ws) ++ (newLine below ++ '\x7d' :: rest)) =
        ',' :: (newLine level ++ (writeString w.1 ++ (':' :: ' ' :: (render level w.2 ++
          (renderMembers level ws ++ (newLine below ++ '\x7d' :: rest)))))) := by
      simp [renderMembers, skipSpace, isSpace]
    have hrest := hm w ws level below
      (newLine level ++ (writeString w.1 ++ (':' :: ' ' :: (render level w.2 ++
          (renderMembers level ws ++ (newLine below ++ '\x7d' :: rest)))))) rest
      (fun x hx => hw x (List.mem_cons_of_mem _ hx))
      (skipSpace_newLine level (by
        obtain ⟨t, ht, -⟩ := string?_writeString w.1 (':' :: ' ' :: (render level w.2 ++
          (renderMembers level ws ++ (newLine below ++ '\x7d' :: rest))))
        rw [ht]
        rintro _ ⟨⟩
        rfl))
      (by simp [renderMembers] at hlen; omega)
    simp only [hcomma, hrest, Option.map_some]

theorem value_array_cons {steps : Nat} (hi : ItemsRead steps) {v : Json} {vs : List Json}
    (hw : ∀ w ∈ v :: vs, Whole w) {level : Nat} {s rest : List Char}
    (hs : skipSpace s = render level (.array (v :: vs)) ++ rest)
    (hlen : (render level (.array (v :: vs))).length ≤ steps + 1) :
    value (steps + 1) s = some (.array (v :: vs), rest) := by
  have hopen : render level (.array (v :: vs)) ++ rest =
      '[' :: (newLine (level + 1) ++ (render (level + 1) v ++ (renderItems (level + 1) vs ++
        (newLine level ++ ']' :: rest)))) := by
    simp [render]
  obtain ⟨c, t, ht, hc, hne⟩ := render_cons (hw v List.mem_cons_self) (level + 1)
  have hskip := skipSpace_newLine (level + 1)
    (s := render (level + 1) v ++ (renderItems (level + 1) vs ++
        (newLine level ++ ']' :: rest))) (by rw [ht]; rintro _ ⟨⟩; exact hc)
  have hread := hi v vs (level + 1) level
    (render (level + 1) v ++ (renderItems (level + 1) vs ++
        (newLine level ++ ']' :: rest))) rest hw
    (skipSpace_append (p := []) rfl (by rw [ht]; rintro _ ⟨⟩; exact hc))
    (by simp [render, newLine] at hlen; omega)
  rw [value, hs, hopen]
  simp only [hskip]
  split
  · next h =>
    rw [ht] at h
    exact absurd (List.cons.inj h).1 hne
  · rw [hread, Option.map_some]

theorem value_object_cons {steps : Nat} (hm : MembersRead steps) {m : Option String × Json}
    {ms : List (Option String × Json)} (hw : ∀ w ∈ m :: ms, Whole w.2) {level : Nat}
    {s rest : List Char}
    (hs : skipSpace s = render level (.object (m :: ms)) ++ rest)
    (hlen : (render level (.object (m :: ms))).length ≤ steps + 1) :
    value (steps + 1) s = some (.object (m :: ms), rest) := by
  have hopen : render level (.object (m :: ms)) ++ rest =
      '\x7b' :: (newLine (level + 1) ++ (writeString m.1 ++ (':' :: ' ' ::
        (render (level + 1) m.2 ++ (renderMembers (level + 1) ms ++
          (newLine level ++ '\x7d' :: rest)))))) := by
    simp [render]
  obtain ⟨t, ht, -⟩ := string?_writeString m.1 (':' :: ' ' ::
        (render (level + 1) m.2 ++ (renderMembers (level + 1) ms ++
          (newLine level ++ '\x7d' :: rest))))
  have hskip := skipSpace_newLine (level + 1) (s := '"' :: t) (by rintro _ ⟨⟩; rfl)
  have hread := hm m ms (level + 1) level ('"' :: t) rest hw ht.symm
    (by simp [render, newLine] at hlen; omega)
  rw [value, hs, hopen, ht]
  simp only [hskip]
  split
  · next h => exact absurd (List.cons.inj h).1 (by decide)
  · rw [hread, Option.map_some]

/-- One more level of values can be read with one more step. -/
theorem valuesRead_succ {steps : Nat} (hi : ItemsRead steps) (hm : MembersRead steps) :
    ValuesRead (steps + 1) := by
  intro v level s rest hw hs hrest hlen
  cases hw with
  | null => rw [value, hs]; rfl
  | bool b => cases b <;> (rw [value, hs]; rfl)
  | int n => exact value_int steps n hs hrest
  | string text =>
    obtain ⟨inner, hinner, hstring⟩ := string?_writeString text rest
    rw [render, hinner] at hs
    rw [value, hs]
    simp only [hstring, Option.map_some]
  | @array vs hitems =>
    cases vs with
    | nil =>
      rw [value, hs]
      rfl
    | cons w ws => exact value_array_cons hi hitems hs hlen
  | @object ms hmembers =>
    cases ms with
    | nil =>
      rw [value, hs]
      rfl
    | cons w ws => exact value_object_cons hm hmembers hs hlen

/-- All that is written can be read with as many steps as it has characters. -/
theorem read_all (steps : Nat) : ValuesRead steps ∧ ItemsRead steps ∧ MembersRead steps := by
  induction steps with
  | zero =>
    refine ⟨?_, ?_, ?_⟩
    · intro v level s rest hw _ _ hlen
      obtain ⟨c, t, ht, -⟩ := render_cons hw level
      simp [ht] at hlen
    · intro v vs level below s rest _ _ hlen
      omega
    · intro m ms level below s rest _ _ hlen
      omega
  | succ steps ih =>
    obtain ⟨hv, hi, hm⟩ := ih
    exact ⟨valuesRead_succ hi hm, itemsRead_succ hv hi, membersRead_succ hv hm⟩

/-- A value whose numbers are whole is read as it was written. -/
theorem read?_print {v : Json} (hv : Whole v) : read? (print v) = some v := by
  have hs : skipSpace (render 0 v ++ ['\n']) = render 0 v ++ ['\n'] := by
    obtain ⟨c, t, ht, hc, -⟩ := render_cons hv 0
    rw [ht]
    exact skipSpace_append (p := []) rfl (by rintro _ ⟨⟩; exact hc)
  have hvalue := (read_all ((render 0 v ++ ['\n']).length + 1)).1 v 0 (render 0 v ++ ['\n'])
    ['\n'] hv hs (by rintro _ ⟨⟩; exact .inr rfl) (by simp; omega)
  unfold read? print
  simp only [String.toList_ofList, hvalue]
  rfl

end StoredRoutines.Json
