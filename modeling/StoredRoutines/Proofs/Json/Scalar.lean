import StoredRoutines.Json.Printer
import StoredRoutines.Json.Reader

/-!
# Reading strings and numbers back

Strings and whole numbers are read back from the text they are written as.

## Main definitions

- `Numeral` — digits as a whole number is written with

## Main results

- `string?_writeString`, `number?_writeInt`, `readInt?_writeInt` — reading undoes writing
-/

namespace StoredRoutines.Json

/-! ### Strings -/

theorem hexUnit?_control : ∀ n < 0x20,
    hexUnit? '0' '0' (hexDigit (n / 16)) (hexDigit (n % 16)) = some (.char (Char.ofNat n)) := by
  decide

theorem units?_escaped {e c : Char} (h : escaped? e = some c) (rest : List Char) :
    units? ('\\' :: e :: rest) = (units? rest).map fun u => (.char c :: u.1, u.2) := by
  have hu : e ≠ 'u' := by rintro rfl; simp [escaped?] at h
  rw [units?]
  · rw [h]
    cases units? rest <;> rfl
  · intro a b c d r he
    exact absurd he hu

theorem units?_numbered {a b : Char} {u : Unit} (h : hexUnit? '0' '0' a b = some u)
    (rest : List Char) :
    units? ('\\' :: 'u' :: '0' :: '0' :: a :: b :: rest) =
      (units? rest).map fun v => (u :: v.1, v.2) := by
  rw [units?, h]
  cases units? rest <;> rfl

theorem units?_plain {c : Char} (hq : c ≠ '"') (hb : c ≠ '\\') (hc : ¬ c.toNat < 0x20)
    (rest : List Char) :
    units? (c :: rest) = (units? rest).map fun v => (.char c :: v.1, v.2) := by
  rw [units?]
  · have hs : (c == '\\' || decide (c.toNat < 0x20)) = false := by simp [hb, hc]
    rw [hs]
    cases units? rest <;> rfl
  · exact hq
  · rintro a b d f r rfl
    exact absurd rfl hb
  · rintro e r rfl
    exact absurd rfl hb

/-- A written character is read back before whatever follows it. -/
theorem units?_writeChar (c : Char) (rest : List Char) :
    units? (writeChar c ++ rest) = (units? rest).map fun u => (.char c :: u.1, u.2) := by
  unfold writeChar
  split
  · next h => subst h; exact units?_escaped rfl rest
  split
  · next h => subst h; exact units?_escaped rfl rest
  split
  · next h => subst h; exact units?_escaped rfl rest
  split
  · next h => subst h; exact units?_escaped rfl rest
  split
  · next h => subst h; exact units?_escaped rfl rest
  split
  · next h => subst h; exact units?_escaped rfl rest
  split
  · next h => subst h; exact units?_escaped rfl rest
  split
  · next h =>
    have hu := hexUnit?_control c.toNat h
    rw [Char.ofNat_toNat] at hu
    exact units?_numbered hu rest
  · next hq hb _ _ _ _ _ hc => exact units?_plain hq hb hc rest

/-- All written characters are read again up to the quote. -/
theorem units?_flatMap (s rest : List Char) :
    units? (s.flatMap writeChar ++ '"' :: rest) = some (s.map .char, rest) := by
  induction s with
  | nil => simp [units?]
  | cons c s ih =>
    rw [List.flatMap_cons, List.append_assoc, units?_writeChar, ih]
    rfl

theorem textOf_map_char (s : List Char) : textOf (s.map .char) = some s := by
  induction s with
  | nil => rfl
  | cons c s ih => rw [List.map_cons, textOf, ih, Option.map_some]

/-- A written string is read again. -/
theorem string?_writeString (t : Option String) (rest : List Char) :
    ∃ inner, writeString t ++ rest = '"' :: inner ∧ string? inner = some (t, rest) := by
  cases t with
  | none => exact ⟨_, rfl, rfl⟩
  | some s =>
    refine ⟨s.toList.flatMap writeChar ++ '"' :: rest, by simp [writeString], ?_⟩
    simp only [string?, units?_flatMap, Option.map_some, textOf_map_char, String.ofList_toList]

/-! ### Numbers -/

/-- What may follow a value: nothing, a comma or the end of the line. -/
def Follows (rest : List Char) : Prop :=
  ∀ c ∈ rest.head?, c = ',' ∨ c = '\n'

/-- Digits as a whole number is written with. -/
structure Numeral (ds : List Char) : Prop where
  ne_nil : ds ≠ []
  digits : ∀ c ∈ ds, c.isDigit
  zero : ∀ ds', ds = '0' :: ds' → ds' = []

theorem toDigits_zero_cons {n : Nat} {ds : List Char} (h : Nat.toDigits 10 n = '0' :: ds) :
    ds = [] := by
  induction n using Nat.strongRecOn generalizing ds with
  | ind n ih =>
    by_cases hn : n < 10
    · rw [Nat.toDigits_of_lt_base hn] at h
      exact (List.cons.inj h).2.symm
    · rw [Nat.toDigits_of_base_le (by omega) (by omega)] at h
      cases hd : Nat.toDigits 10 (n / 10) with
      | nil => exact absurd hd Nat.toDigits_ne_nil
      | cons c cs =>
        rw [hd] at h
        obtain ⟨rfl, -⟩ := List.cons.inj h
        have hcs := ih (n / 10) (by omega) hd
        have hdiv : Nat.ofDigitChars 10 (Nat.toDigits 10 (n / 10)) 0 = n / 10 :=
          Nat.ofDigitChars_ten_toDigits
        rw [hd, hcs] at hdiv
        simp [Nat.ofDigitChars_cons] at hdiv
        omega

theorem numeral_toDigits (n : Nat) : Numeral (Nat.toDigits 10 n) where
  ne_nil := Nat.toDigits_ne_nil
  digits _ hc := Nat.isDigit_of_mem_toDigits (by omega) (by omega) hc
  zero _ := toDigits_zero_cons

/-- A numeral is read up to its end. -/
theorem Numeral.whole? {ds rest : List Char} (h : Numeral ds) (hrest : Follows rest) :
    whole? (ds ++ rest) = some (ds, rest) := by
  have hr : rest.takeWhile Char.isDigit = [] ∧ rest.dropWhile Char.isDigit = rest := by
    cases rest with
    | nil => exact ⟨rfl, rfl⟩
    | cons c rest =>
      have hc : c.isDigit = false := by
        rcases hrest c rfl with rfl | rfl <;> rfl
      simp [hc]
  have htake : (ds ++ rest).takeWhile Char.isDigit = ds := by
    rw [List.takeWhile_append_of_pos h.digits, hr.1, List.append_nil]
  have hdrop : (ds ++ rest).dropWhile Char.isDigit = rest := by
    rw [List.dropWhile_append_of_pos h.digits, hr.2]
  cases ds with
  | nil => exact absurd rfl h.ne_nil
  | cons c ds =>
    -- a numeral that begins with zero is zero, and then nothing more is read
    by_cases hc : c = '0'
    · subst hc
      rw [h.zero ds rfl]
      rfl
    · have hw : Json.whole? (c :: ds ++ rest) = digits? (c :: ds ++ rest) := by
        rw [List.cons_append, Json.whole?]
        rintro r hr'
        exact hc (List.cons.inj hr').1
      rw [hw, digits?, htake, hdrop]
      rfl

theorem fraction?_of_follows {rest : List Char} (h : Follows rest) :
    fraction? rest = some ([], rest) := by
  cases rest with
  | nil => rfl
  | cons c rest => rcases h c rfl with rfl | rfl <;> rfl

theorem exponent?_of_follows {rest : List Char} (h : Follows rest) :
    exponent? rest = some ([], rest) := by
  cases rest with
  | nil => rfl
  | cons c rest => rcases h c rfl with rfl | rfl <;> rfl

theorem Numeral.sign {ds : List Char} (h : Numeral ds) (rest : List Char) :
    sign (ds ++ rest) = ([], ds ++ rest) := by
  cases ds with
  | nil => exact absurd rfl h.ne_nil
  | cons c ds =>
    rw [List.cons_append, Json.sign]
    rintro r hr
    have hc := h.digits c List.mem_cons_self
    rw [(List.cons.inj hr).1] at hc
    exact absurd hc (by decide)

/-- A whole number is read as it was written. -/
theorem number?_writeInt (n : Int) {rest : List Char} (h : Follows rest) :
    number? (writeInt n ++ rest) = some (writeInt n, rest) := by
  have hn := numeral_toDigits n.natAbs
  have hwhole := hn.whole? h
  unfold writeInt
  split
  · rw [List.cons_append, number?, Json.sign, hwhole]
    simp [fraction?_of_follows h, exponent?_of_follows h]
  · rw [number?, hn.sign, hwhole]
    simp [fraction?_of_follows h, exponent?_of_follows h]

/-- The digits of a text give the number that they stand for. -/
theorem readNatFrom_digits (m : Nat) {ds : List Char} (h : ∀ c ∈ ds, c.isDigit) :
    readNatFrom m ds = some (Nat.ofDigitChars 10 ds m) := by
  induction ds generalizing m with
  | nil => rfl
  | cons c ds ih =>
    have hc : c.isDigit = true := h c List.mem_cons_self
    rw [readNatFrom, if_pos hc, ih _ fun d hd => h d (List.mem_cons_of_mem _ hd),
      Nat.ofDigitChars_cons]

/-- A whole number has the value it was written for. -/
theorem readInt?_writeInt (n : Int) : readInt? (writeInt n) = some n := by
  have hn := numeral_toDigits n.natAbs
  have hread : readNatFrom 0 (Nat.toDigits 10 n.natAbs) = some n.natAbs := by
    rw [readNatFrom_digits 0 hn.digits, Nat.ofDigitChars_ten_toDigits]
  unfold writeInt
  split
  · next hneg =>
    rw [readInt?, hread]
    split
    · next hz =>
      have hzero := Option.some.inj hz
      omega
    · next m _ hm =>
      have hnat := Option.some.inj hm
      congr 1
      omega
    · next hnone => cases hnone
  · next hpos =>
    -- a numeral does not begin with a sign
    have hcases : readInt? (Nat.toDigits 10 n.natAbs) =
        (readNatFrom 0 (Nat.toDigits 10 n.natAbs)).map Int.ofNat := by
      rw [readInt?]
      rintro r hr
      have hc := hn.digits '-' (by rw [hr]; exact List.mem_cons_self)
      exact absurd hc (by decide)
    rw [hcases, hread, Option.map_some]
    congr 1
    have habs : ((n.natAbs : Nat) : Int) = n := by omega
    exact habs

end StoredRoutines.Json
