/-!
# Hexadecimal digits

Numbers read from hexadecimal digits in either case, and bytes written with them.

## Main definitions

- `hexDigit?` — the value of a digit
- `hexValue?` — the value of a row of digits
- `hexPair` — the two digits of a byte
-/

namespace StoredRoutines.Text

/-- The value of a hexadecimal digit in either case. -/
def hexDigit? (c : Char) : Option Nat :=
  if '0' ≤ c ∧ c ≤ '9' then some (c.toNat - '0'.toNat)
  else if 'a' ≤ c ∧ c ≤ 'f' then some (c.toNat - 'a'.toNat + 10)
  else if 'A' ≤ c ∧ c ≤ 'F' then some (c.toNat - 'A'.toNat + 10)
  else none

/-- The value of a row of hexadecimal digits, given the value of those before it. -/
def hexValueFrom? (value : Nat) : List Char → Option Nat
  | [] => some value
  | c :: rest =>
    match hexDigit? c with
    | some d => hexValueFrom? (value * 16 + d) rest
    | none => none

/-- The value of a row of hexadecimal digits. -/
def hexValue? (s : List Char) : Option Nat :=
  hexValueFrom? 0 s

/-- The two digits of a byte in lower case. -/
def hexPair (b : UInt8) : String :=
  String.ofList [Nat.digitChar (b.toNat / 16), Nat.digitChar (b.toNat % 16)]

end StoredRoutines.Text
