import StoredRoutines.Text.Hex

/-!
# Sets of bytes

The sets that classes of a pattern stand for, and how bytes and sets of them are written in regular
expressions.

## Main definitions

- `ByteSet` — a set of bytes given by ranges, or the complement of one
- `ByteSet.holds` — membership
- `ByteSet.text`, `byteText` — how a set and a byte are written
-/

namespace StoredRoutines.Glob

/-- Whether a character has a meaning of its own in an expression. -/
def isSpecial (c : Char) : Bool :=
  "\\.+*?()|[]\x7b\x7d^$#&-~".toList.contains c

/-- A byte as it is written: special characters behind a backslash, and whatever lies beyond
    ASCII with two digits. -/
def byteText (b : UInt8) : String :=
  if 0x7F < b then "\\x" ++ Text.hexPair b
  else
    let c := Char.ofNat b.toNat
    if isSpecial c then "\\" ++ String.singleton c else String.singleton c

/-- A set of bytes. -/
structure ByteSet where
  /-- Whether the ranges are the bytes that do not belong to the set. -/
  negated : Bool
  /-- Ranges of bytes, both ends included. -/
  ranges : List (UInt8 × UInt8)
  deriving DecidableEq, Repr

namespace ByteSet

/-- Membership of a byte. -/
def holds (s : ByteSet) (b : UInt8) : Bool :=
  (s.ranges.any fun r => r.1 ≤ b && b ≤ r.2) != s.negated

/-- A set as it is written. -/
def text (s : ByteSet) : String :=
  let range := fun r : UInt8 × UInt8 =>
    if r.1 = r.2 then byteText r.1 else byteText r.1 ++ "-" ++ byteText r.2
  (if s.negated then "[^" else "[") ++ String.join (s.ranges.map range) ++ "]"

end ByteSet

end StoredRoutines.Glob
