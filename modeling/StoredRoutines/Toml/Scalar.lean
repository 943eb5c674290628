import StoredRoutines.Text.Hex

/-!
# Numbers, dates and truth values of TOML

The values that are written as a single word.

## Main definitions

- `integer?` — whole numbers in four bases
- `isFloat` — numbers with a fraction or an exponent
- `isDateTime` — dates, times and both together
- `isWordChar` — the characters that such values are written with
-/

namespace StoredRoutines.Toml

/-- The characters of numbers, dates, times and truth values. -/
def isWordChar (c : Char) : Bool :=
  c.isAlphanum || c == '_' || c == '+' || c == '-' || c == '.' || c == ':'

/-- A row of digits in which a low line may stand between two digits, without the low lines. -/
def digitRow? (isDigit : Char → Bool) : List Char → Option (List Char)
  | [] => none
  | [c] => if isDigit c then some [c] else none
  | c :: '_' :: rest => if isDigit c then (digitRow? isDigit rest).map (c :: ·) else none
  | c :: rest => if isDigit c then (digitRow? isDigit rest).map (c :: ·) else none

/-- A row of decimal digits without needless zeros at its start. -/
def wholeRow? (s : List Char) : Option (List Char) :=
  match digitRow? Char.isDigit s with
  | some ['0'] => some ['0']
  | some ('0' :: _) => none
  | row => row

/-- The value of digits in a base. -/
def valueOf (base : Nat) (digits : List Char) : Nat :=
  digits.foldl (fun n c => n * base + (Text.hexDigit? c).getD 0) 0

/-- A word without its sign, and whether it was a hyphen. -/
def unsigned : List Char → Bool × List Char
  | '+' :: rest => (false, rest)
  | '-' :: rest => (true, rest)
  | s => (false, s)

/-- A whole number if it fits into 64 bits with a sign. -/
def bounded? (n : Int) : Option Int :=
  if Int64.minValue.toInt ≤ n && n ≤ Int64.maxValue.toInt then some n else none

/-- A row of digits in a base other than ten. -/
def based? (base : Nat) (isDigit : Char → Bool) (s : List Char) : Option Int :=
  (digitRow? isDigit s).bind fun digits => bounded? (valueOf base digits)

/-- The whole number that a word is. -/
def integer? : List Char → Option Int
  | '0' :: 'x' :: rest => based? 16 (fun c => (Text.hexDigit? c).isSome) rest
  | '0' :: 'o' :: rest => based? 8 (fun c => '0' ≤ c && c ≤ '7') rest
  | '0' :: 'b' :: rest => based? 2 (fun c => c == '0' || c == '1') rest
  | s =>
    let (negative, digits) := unsigned s
    (wholeRow? digits).bind fun digits =>
      let n : Int := valueOf 10 digits
      bounded? (if negative then -n else n)

/-! ### Numbers with a fraction or an exponent -/

/-- The least whole number that no longer rounds to a finite double. -/
def doubleBound : Nat := Nat.pow 2 1024 - Nat.pow 2 970

/-- Whether digits times a power of ten lie below `doubleBound`. -/
def isFinite (digits : List Char) (exponent : Int) : Bool :=
  let digits := digits.dropWhile (· == '0')
  let size : Int := digits.length + exponent
  if digits.isEmpty || size < 300 then true
  else if 320 < size then false
  else if 0 ≤ exponent then valueOf 10 digits * Nat.pow 10 exponent.toNat < doubleBound
  else valueOf 10 digits < doubleBound * Nat.pow 10 exponent.natAbs

/-- The value of an exponent with a sign. -/
def exponentOf? (s : List Char) : Option Int :=
  let (negative, digits) := unsigned s
  (digitRow? Char.isDigit digits).map fun digits =>
    let n : Int := valueOf 10 digits
    if negative then -n else n

/-- Whether a character belongs to the digits of a number. -/
def isRowChar (c : Char) : Bool :=
  c.isDigit || c == '_'

/-- The digits after the point, empty if there is none, and what follows. -/
def fraction? : List Char → Option (List Char × List Char)
  | '.' :: rest =>
    (digitRow? Char.isDigit (rest.takeWhile isRowChar)).map fun digits =>
      (digits, rest.dropWhile isRowChar)
  | s => some ([], s)

/-- Whether a word is a number with a fraction or an exponent, or one that is not finite. A number
    that is too large is refused; one that is too far below zero counts as negative infinity. -/
def isFloat (s : List Char) : Bool :=
  let (negative, s) := unsigned s
  if s = ['i', 'n', 'f'] ∨ s = ['n', 'a', 'n'] then true
  else
    match wholeRow? (s.takeWhile isRowChar), fraction? (s.dropWhile isRowChar) with
    | some whole, some (fraction, rest) =>
      match rest with
      | [] => !fraction.isEmpty &&
          (negative || isFinite (whole ++ fraction) (-(fraction.length : Int)))
      | c :: rest =>
        if c == 'e' || c == 'E' then
          match exponentOf? rest with
          | some e => negative || isFinite (whole ++ fraction) (e - fraction.length)
          | none => false
        else false
    | _, _ => false

/-! ### Dates and times -/

/-- The number made up of a fixed number of digits, and what follows. -/
def fixed? (count : Nat) (s : List Char) : Option (Nat × List Char) :=
  let digits := s.take count
  if digits.length = count ∧ digits.all Char.isDigit then
    some (valueOf 10 digits, s.drop count)
  else none

/-- What follows an expected character. -/
def after? (c : Char) : List Char → Option (List Char)
  | [] => none
  | d :: rest => if d = c then some rest else none

/-- The number of days of a month. -/
def daysIn (year month : Nat) : Nat :=
  if month = 2 then
    if year % 4 = 0 ∧ (year % 100 ≠ 0 ∨ year % 400 = 0) then 29 else 28
  else if [4, 6, 9, 11].contains month then 30
  else 31

/-- What follows the date that a text begins with. -/
def date? (s : List Char) : Option (List Char) := do
  let (year, s) ← fixed? 4 s
  let s ← after? '-' s
  let (month, s) ← fixed? 2 s
  let s ← after? '-' s
  let (day, s) ← fixed? 2 s
  if 1 ≤ month ∧ month ≤ 12 ∧ 1 ≤ day ∧ day ≤ daysIn year month then some s else none

/-- What follows the hour and the minute that a text begins with. -/
def hourMinute? (s : List Char) : Option (List Char) := do
  let (hour, s) ← fixed? 2 s
  let s ← after? ':' s
  let (minute, s) ← fixed? 2 s
  if hour ≤ 23 ∧ minute ≤ 59 then some s else none

/-- What follows the time of day that a text begins with. -/
def time? (s : List Char) : Option (List Char) := do
  let s ← hourMinute? s
  let s ← after? ':' s
  let (second, s) ← fixed? 2 s
  if 60 < second then none
  else
    match s with
    | '.' :: rest =>
      if (rest.takeWhile Char.isDigit).isEmpty then none else some (rest.dropWhile Char.isDigit)
    | s => some s

/-- Whether a text is nothing or the distance from universal time. -/
def isOffset : List Char → Bool
  | [] => true
  | c :: rest =>
    if c == 'Z' || c == 'z' then rest.isEmpty
    else if c == '+' || c == '-' then hourMinute? rest == some []
    else false

/-- Whether a text is a date and nothing else. -/
def isDate (s : List Char) : Bool :=
  date? s == some []

/-- Whether a text is a date, a time of day, or a date and a time. -/
def isDateTime (s : List Char) : Bool :=
  time? s == some [] ||
    match date? s with
    | some [] => true
    | some (c :: rest) =>
      (c == 'T' || c == 't' || c == ' ') &&
        match time? rest with
        | some rest => isOffset rest
        | none => false
    | none => false

end StoredRoutines.Toml
