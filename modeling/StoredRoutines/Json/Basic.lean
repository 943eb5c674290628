/-!
# JSON values

Values as they stand in a JSON text.

## Main definitions

- `Json` — the values
- `Json.int` — a whole number
- `Json.int64?` — the 64-bit number that a value is written as

## Design notes

A number keeps its digits and a string may be without text: both can stand in a place whose value
nobody asks for, however large the number is and whether the escapes of the string make sense
together.
-/

namespace StoredRoutines

/-- A JSON value. -/
inductive Json where
  /-- The null value. -/
  | null
  /-- A truth value. -/
  | bool (b : Bool)
  /-- A number as it is written. -/
  | number (written : List Char)
  /-- A string; it has no text if an escaped surrogate stands alone in it. -/
  | string (text : Option String)
  /-- A list of values. -/
  | array (items : List Json)
  /-- Named values in the order in which they are written. -/
  | object (members : List (Option String × Json))

namespace Json

/-- A string with a text. -/
def text (s : String) : Json := .string (some s)

/-- An object whose names are texts. -/
def record (members : List (String × Json)) : Json :=
  .object (members.map fun m => (some m.1, m.2))

/-- The digits of a whole number, after a hyphen if it is negative. -/
def writeInt (n : Int) : List Char :=
  if n < 0 then '-' :: Nat.toDigits 10 n.natAbs else Nat.toDigits 10 n.natAbs

/-- A whole number. -/
def int (n : Int) : Json := .number (writeInt n)

/-- The value of a sequence of decimal digits, given the value of the digits before it. -/
def readNatFrom (value : Nat) : List Char → Option Nat
  | [] => some value
  | c :: rest =>
    if c.isDigit then readNatFrom (10 * value + (c.toNat - '0'.toNat)) rest else none

/-- The whole number that is written without fraction and exponent. Negative zero is none. -/
def readInt? : List Char → Option Int
  | '-' :: digits =>
    match readNatFrom 0 digits with
    | some 0 => none
    | some n => some (-(n : Int))
    | none => none
  | digits => (readNatFrom 0 digits).map Int.ofNat

/-- Whether a whole number fits into 64 bits with a sign. -/
def fitsInt64 (n : Int) : Bool :=
  Int64.minValue.toInt ≤ n && n ≤ Int64.maxValue.toInt

/-- The 64-bit number that a value is written as. -/
def int64? : Json → Option Int64
  | number written =>
    match readInt? written with
    | some n => if fitsInt64 n then some (Int64.ofInt n) else none
    | none => none
  | _ => none

end Json

end StoredRoutines
