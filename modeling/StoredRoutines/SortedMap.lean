/-!
# Sorted maps

Finite maps from strings, listed in ascending order of their keys.

## Main definitions

- `SortedMap` — the entries together with the fact that their keys ascend strictly
- `SortedMap.get?`, `SortedMap.insert`, `SortedMap.erase`, `SortedMap.filterKeys`
- `SortedMap.ofList`, `SortedMap.union` — later entries replace earlier ones

## Design notes

The order is part of the type because everything that is printed from a map is printed in it.
It also makes two maps equal as soon as all look-ups agree (`SortedMap.ext_get?`), so the view
through which the operations are described is `get?`.
-/

namespace StoredRoutines

/-- A finite map from strings. -/
structure SortedMap (α : Type) where
  /-- The keys with their values. -/
  entries : List (String × α)
  /-- The keys ascend strictly. -/
  sorted : entries.Pairwise (fun a b => a.1 < b.1)
  deriving DecidableEq

namespace SortedMap

variable {α β : Type}

/-! ### Sorted lists of entries -/

theorem lookup_cons_if (k : String) (e : String × α) (l : List (String × α)) :
    (e :: l).lookup k = if k = e.1 then some e.2 else l.lookup k := by
  rw [List.lookup_cons]
  split <;> simp_all

/-- The entries with `k` bound to `v`. -/
def insertEntry (k : String) (v : α) : List (String × α) → List (String × α)
  | [] => [(k, v)]
  | e :: rest =>
    if k < e.1 then (k, v) :: e :: rest
    else if k = e.1 then (k, v) :: rest
    else e :: insertEntry k v rest

theorem mem_insertEntry {k : String} {v : α} {l : List (String × α)} {x : String × α}
    (h : x ∈ insertEntry k v l) : x = (k, v) ∨ x ∈ l := by
  induction l with
  | nil => simpa [insertEntry] using h
  | cons e rest ih =>
    simp only [insertEntry] at h
    split at h
    · simpa using h
    · split at h
      · rcases List.mem_cons.1 h with h | h
        · exact .inl h
        · exact .inr (List.mem_cons_of_mem _ h)
      · rcases List.mem_cons.1 h with rfl | h
        · exact .inr List.mem_cons_self
        · rcases ih h with h | h
          · exact .inl h
          · exact .inr (List.mem_cons_of_mem _ h)

theorem insertEntry_sorted (k : String) (v : α) {l : List (String × α)}
    (h : l.Pairwise (fun a b => a.1 < b.1)) :
    (insertEntry k v l).Pairwise (fun a b => a.1 < b.1) := by
  induction l with
  | nil => simp [insertEntry]
  | cons e rest ih =>
    obtain ⟨he, hrest⟩ := List.pairwise_cons.1 h
    simp only [insertEntry]
    split
    · next hk =>
      refine List.pairwise_cons.2 ⟨fun x hx => ?_, h⟩
      rcases List.mem_cons.1 hx with rfl | hx
      · exact hk
      · exact String.lt_trans hk (he x hx)
    · split
      · next hk => exact List.pairwise_cons.2 ⟨fun x hx => hk ▸ he x hx, hrest⟩
      · next hlt hne =>
        refine List.pairwise_cons.2 ⟨fun x hx => ?_, ih hrest⟩
        rcases mem_insertEntry hx with rfl | hx
        · rcases Decidable.em (e.1 < k) with h' | h'
          · exact h'
          · exact absurd (String.le_antisymm (String.not_lt.1 h') (String.not_lt.1 hlt)) hne
        · exact he x hx

/-- An inserted entry is found, and so are all the others. -/
theorem lookup_insertEntry (k k' : String) (v : α) {l : List (String × α)}
    (h : l.Pairwise (fun a b => a.1 < b.1)) :
    (insertEntry k v l).lookup k' = if k' = k then some v else l.lookup k' := by
  induction l with
  | nil => simp [insertEntry, lookup_cons_if]
  | cons e rest ih =>
    obtain ⟨a, b⟩ := e
    obtain ⟨he, hrest⟩ := List.pairwise_cons.1 h
    simp only [insertEntry]
    split
    · simp [lookup_cons_if]
    · split
      · next hk =>
        subst hk
        by_cases hkk : k' = k <;> simp [lookup_cons_if, hkk]
      · next hlt hne =>
        simp only [lookup_cons_if, ih hrest]
        by_cases hka : k' = a
        · subst hka
          have hk : ¬ k' = k := fun h => hne h.symm
          simp [hk]
        · simp [hka]

/-- A key below all others is not found. -/
theorem lookup_eq_none_of_lt {k : String} {l : List (String × α)} (h : ∀ x ∈ l, k < x.1) :
    l.lookup k = none := by
  induction l with
  | nil => rfl
  | cons e rest ih =>
    obtain ⟨a, b⟩ := e
    have hk : ¬ k = a := fun hk =>
      String.lt_irrefl a (by simpa [hk] using h (a, b) List.mem_cons_self)
    simp [lookup_cons_if, hk, ih fun x hx => h x (List.mem_cons_of_mem _ hx)]

theorem lookup_filter (p : String → Bool) (k : String) (l : List (String × α)) :
    (l.filter fun e => p e.1).lookup k = if p k then l.lookup k else none := by
  induction l with
  | nil => simp
  | cons e rest ih =>
    obtain ⟨a, b⟩ := e
    rw [List.filter_cons]
    split
    · next hp =>
      by_cases hk : k = a
      · subst hk
        simp [show p k = true from hp]
      · simp [lookup_cons_if, hk, ih]
    · next hp =>
      by_cases hk : k = a
      · subst hk
        simp [ih, hp]
      · simp [lookup_cons_if, hk, ih]

/-- An entry is listed exactly if looking up its key finds its value. -/
theorem mem_iff_lookup {l : List (String × α)} (h : l.Pairwise (fun a b => a.1 < b.1))
    (k : String) (v : α) : (k, v) ∈ l ↔ l.lookup k = some v := by
  induction l with
  | nil => simp
  | cons e rest ih =>
    obtain ⟨a, b⟩ := e
    obtain ⟨he, hrest⟩ := List.pairwise_cons.1 h
    by_cases hk : k = a
    · subst hk
      have hnot : (k, v) ∉ rest := fun hmem => String.lt_irrefl k (he _ hmem)
      simp [hnot, eq_comm]
    · simp [lookup_cons_if, hk, ih hrest]

/-- Two sorted lists of entries with the same look-ups are equal. -/
theorem eq_of_lookup_eq {l l' : List (String × α)}
    (h : l.Pairwise (fun a b => a.1 < b.1)) (h' : l'.Pairwise (fun a b => a.1 < b.1))
    (heq : ∀ k, l.lookup k = l'.lookup k) : l = l' := by
  induction l generalizing l' with
  | nil =>
    cases l' with
    | nil => rfl
    | cons e rest => simpa [lookup_cons_if] using heq e.1
  | cons e rest ih =>
    cases l' with
    | nil => simpa [lookup_cons_if] using heq e.1
    | cons e' rest' =>
      obtain ⟨a, b⟩ := e
      obtain ⟨a', b'⟩ := e'
      obtain ⟨he, hrest⟩ := List.pairwise_cons.1 h
      obtain ⟨he', hrest'⟩ := List.pairwise_cons.1 h'
      -- the first key of one list is found in the other, whose keys are not before its own first
      -- one
      have hle : ∀ {x y : String} {u w : α} {m n : List (String × α)},
          (∀ z ∈ m, x < z.1) → (∀ z ∈ n, y < z.1) →
          (∀ k, ((x, u) :: m).lookup k = ((y, w) :: n).lookup k) → ¬ y < x := by
        intro x y u w m n hm hn hxy hlt
        have hy := hxy y
        have hne : ¬ y = x := fun hyx => String.lt_irrefl x (hyx ▸ hlt)
        rw [lookup_cons_if, lookup_cons_if] at hy
        simp [hne, lookup_eq_none_of_lt fun z hz => String.lt_trans hlt (hm z hz)] at hy
      have haa : a = a' := String.le_antisymm
        (String.not_lt.1 (hle he he' heq)) (String.not_lt.1 (hle he' he fun k => (heq k).symm))
      subst haa
      have hb : b = b' := by simpa [lookup_cons_if] using heq a
      subst hb
      congr 1
      -- behind the first entry the key does not occur again, so the look-ups in the rest agree too
      refine ih hrest hrest' fun k => ?_
      have hk := heq k
      by_cases hka : k = a
      · subst hka
        rw [lookup_eq_none_of_lt he, lookup_eq_none_of_lt he']
      · simpa [lookup_cons_if, hka] using hk

/-! ### The map -/

/-- The map without entries. -/
def empty : SortedMap α := ⟨[], List.Pairwise.nil⟩

instance : EmptyCollection (SortedMap α) := ⟨empty⟩

instance : Inhabited (SortedMap α) := ⟨empty⟩

/-- The value of a key. -/
def get? (m : SortedMap α) (k : String) : Option α :=
  m.entries.lookup k

/-- Whether a key has a value. -/
def contains (m : SortedMap α) (k : String) : Bool :=
  (m.get? k).isSome

/-- The keys in ascending order. -/
def keys (m : SortedMap α) : List String :=
  m.entries.map (·.1)

/-- The number of entries. -/
def size (m : SortedMap α) : Nat :=
  m.entries.length

/-- Whether there are no entries. -/
def isEmpty (m : SortedMap α) : Bool :=
  m.entries.isEmpty

/-- The map with `k` bound to `v`. -/
def insert (m : SortedMap α) (k : String) (v : α) : SortedMap α :=
  ⟨insertEntry k v m.entries, insertEntry_sorted k v m.sorted⟩

/-- The entries whose key satisfies `p`. -/
def filterKeys (m : SortedMap α) (p : String → Bool) : SortedMap α :=
  ⟨m.entries.filter fun e => p e.1, m.sorted.filter _⟩

/-- The map without the key `k`. -/
def erase (m : SortedMap α) (k : String) : SortedMap α :=
  m.filterKeys fun k' => k' ≠ k

/-- The entries of both maps; those of the second replace those of the first. -/
def union (m n : SortedMap α) : SortedMap α :=
  n.entries.foldl (fun acc e => acc.insert e.1 e.2) m

/-- The map built by inserting the pairs one after the other. -/
def ofList (l : List (String × α)) : SortedMap α :=
  l.foldl (fun acc e => acc.insert e.1 e.2) empty

@[simp]
theorem get?_empty (k : String) : (empty : SortedMap α).get? k = none := rfl

theorem get?_insert (m : SortedMap α) (k k' : String) (v : α) :
    (m.insert k v).get? k' = if k' = k then some v else m.get? k' :=
  lookup_insertEntry k k' v m.sorted

theorem get?_filterKeys (m : SortedMap α) (p : String → Bool) (k : String) :
    (m.filterKeys p).get? k = if p k then m.get? k else none :=
  lookup_filter p k m.entries

theorem get?_erase (m : SortedMap α) (k k' : String) :
    (m.erase k).get? k' = if k' = k then none else m.get? k' := by
  by_cases h : k' = k <;> simp [erase, get?_filterKeys, h]

/-- The entries are the keys with their values. -/
theorem mem_entries_iff (m : SortedMap α) (k : String) (v : α) :
    (k, v) ∈ m.entries ↔ m.get? k = some v :=
  mem_iff_lookup m.sorted k v

/-- Two maps with the same look-ups are equal. -/
theorem ext_get? {m n : SortedMap α} (h : ∀ k, m.get? k = n.get? k) : m = n := by
  obtain ⟨l, hl⟩ := m
  obtain ⟨l', hl'⟩ := n
  have := eq_of_lookup_eq hl hl' h
  subst this
  rfl

theorem erase_of_get?_eq_none {m : SortedMap α} {k : String} (h : m.get? k = none) :
    m.erase k = m := by
  refine ext_get? fun k' => ?_
  rw [get?_erase]
  split
  · next hk => rw [hk, h]
  · rfl

/-- A key is listed exactly if it has a value. -/
theorem mem_keys_iff (m : SortedMap α) (k : String) : k ∈ m.keys ↔ (m.get? k).isSome := by
  simp only [keys, List.mem_map]
  constructor
  · rintro ⟨⟨a, b⟩, hmem, rfl⟩
    simp [(mem_entries_iff m a b).1 hmem]
  · intro h
    obtain ⟨v, hv⟩ := Option.isSome_iff_exists.1 h
    exact ⟨(k, v), (mem_entries_iff m k v).2 hv, rfl⟩

/-- The keys ascend strictly. -/
theorem keys_sorted (m : SortedMap α) : m.keys.Pairwise (· < ·) :=
  List.pairwise_map.2 m.sorted

/-- Inserting a list of pairs one after the other keeps the last value of each key. -/
theorem get?_foldl_insert (l : List (String × α)) (m : SortedMap α) (k : String) :
    (l.foldl (fun acc e => acc.insert e.1 e.2) m).get? k =
      (l.reverse.lookup k).or (m.get? k) := by
  induction l generalizing m with
  | nil => simp
  | cons e rest ih =>
    obtain ⟨a, b⟩ := e
    rw [List.foldl_cons, ih, get?_insert, List.reverse_cons, List.lookup_append]
    by_cases h : k = a <;> simp [h, lookup_cons_if]

/-- Of entries with the same key the last one counts. -/
theorem get?_ofList (l : List (String × α)) (k : String) :
    (ofList l).get? k = l.reverse.lookup k := by
  simp [ofList, get?_foldl_insert]

end SortedMap

/-- The distinct strings of a list in ascending order. -/
def sortedDistinct (l : List String) : List String :=
  (SortedMap.ofList (l.map fun s => (s, ()))).keys

/-- Nothing is lost but the order and the repetitions. -/
theorem mem_sortedDistinct {l : List String} {s : String} : s ∈ sortedDistinct l ↔ s ∈ l := by
  unfold sortedDistinct
  rw [SortedMap.mem_keys_iff, SortedMap.get?_ofList, ← List.map_reverse, ← List.mem_reverse]
  induction l.reverse with
  | nil => simp
  | cons t rest ih =>
    rw [List.map_cons, SortedMap.lookup_cons_if, List.mem_cons]
    by_cases hs : s = t
    · simp [hs]
    · simp only [hs, if_false, false_or]
      exact ih

end StoredRoutines
