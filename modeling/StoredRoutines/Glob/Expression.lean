import StoredRoutines.Glob.ByteSet

/-!
# Regular expressions

Regular expressions over bytes: how one is written, how deeply its parts are nested, and which
byte strings it stands for.

## Main definitions

- `Expression` — a regular expression
- `Expression.text` — how it is written
- `Expression.depth` — how deeply its parts are nested
- `Expression.holds` — whether a byte string is one that it stands for

## Design notes

A row or a choice of a single expression is that expression. `ofRow` and `ofChoice` see to it, so
that every row and every choice counts as a level of its own.

There are no repetitions but that of any byte. So the positions of a string at which an expression
may end are found from those at which it may begin in one pass over the expression, and `Marks`
says which positions they are.
-/

namespace StoredRoutines.Glob

/-- A regular expression. -/
inductive Expression where
  /-- A byte that stands for itself. -/
  | byte (b : UInt8)
  /-- A single byte. -/
  | any
  /-- A byte of a set. -/
  | oneOf (set : ByteSet)
  /-- Any bytes. -/
  | anything
  /-- An expression or nothing. -/
  | optional (e : Expression)
  /-- An expression in parentheses. -/
  | group (e : Expression)
  /-- Expressions one after another. -/
  | row (es : List Expression)
  /-- One of several expressions. -/
  | choice (es : List Expression)
  deriving Repr

/-- For each position of a string, from the one before its first byte to the one after its last,
    whether it is marked. -/
abbrev Marks : Type := List Bool

namespace Marks

/-- The position before the first byte. -/
def start (bytes : List UInt8) : Marks :=
  true :: bytes.map fun _ => false

/-- No position. -/
def none (m : Marks) : Marks :=
  m.map fun _ => false

/-- The positions that are marked in one or the other. -/
def union (m m' : Marks) : Marks :=
  m.zipWith or m'

/-- The positions one byte further on, if the byte between them is accepted. -/
def step (bytes : List UInt8) (accepts : UInt8 → Bool) (m : Marks) : Marks :=
  false :: m.zipWith (fun marked b => marked && accepts b) bytes

/-- All positions from the first marked one on; all of them if one before them is marked. -/
def onwards (before : Bool) : Marks → Marks
  | [] => []
  | marked :: rest => (before || marked) :: onwards (before || marked) rest

end Marks

namespace Expression

/-- Expressions one after another. -/
def ofRow : List Expression → Expression
  | [e] => e
  | es => row es

/-- One of several expressions. -/
def ofChoice : List Expression → Expression
  | [e] => e
  | es => choice es

mutual

/-- An expression as it is written. -/
def text : Expression → String
  | byte b => byteText b
  | any => "."
  | oneOf set => set.text
  | anything => ".*"
  | optional e => text e ++ "?"
  | group e => "(?:" ++ text e ++ ")"
  | row es => String.join (texts es)
  | choice es => "|".intercalate (texts es)

/-- Each of several expressions as it is written. -/
def texts : List Expression → List String
  | [] => []
  | e :: rest => text e :: texts rest

end

mutual

/-- How deeply the parts of an expression are nested. A set with several ranges holds them one
    level deeper than a set with a single one. -/
def depth : Expression → Nat
  | byte _ => 0
  | any => 0
  | oneOf set => if set.ranges.length < 2 then 1 else 2
  | anything => 1
  | optional e => 1 + depth e
  | group e => 1 + depth e
  | row es => 1 + greatestDepth es
  | choice es => 1 + greatestDepth es

/-- The greatest depth among several expressions. -/
def greatestDepth : List Expression → Nat
  | [] => 0
  | e :: rest => max (depth e) (greatestDepth rest)

end

mutual

/-- The positions of a string at which an expression may end, given those at which it may
    begin. -/
def ends (bytes : List UInt8) (m : Marks) : Expression → Marks
  | byte b => m.step bytes (· == b)
  | any => m.step bytes fun _ => true
  | oneOf set => m.step bytes set.holds
  | anything => m.onwards false
  | optional e => m.union (ends bytes m e)
  | group e => ends bytes m e
  | row es => rowEnds bytes m es
  | choice es => choiceEnds bytes m es

/-- The positions at which expressions one after another may end. -/
def rowEnds (bytes : List UInt8) (m : Marks) : List Expression → Marks
  | [] => m
  | e :: rest => rowEnds bytes (ends bytes m e) rest

/-- The positions at which one of several expressions may end. -/
def choiceEnds (bytes : List UInt8) (m : Marks) : List Expression → Marks
  | [] => m.none
  | e :: rest => (ends bytes m e).union (choiceEnds bytes m rest)

end

/-- Whether a string is one that an expression stands for: begun before the first byte, it may end
    after the last. -/
def holds (e : Expression) (bytes : List UInt8) : Bool :=
  (ends bytes (.start bytes) e).getLast?.getD false

end Expression

end StoredRoutines.Glob
