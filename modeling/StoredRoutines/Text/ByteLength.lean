/-!
# Byte length

The room that a text takes in its UTF-8 encoding.

## Main definitions

- `byteLength` — the number of bytes
-/

namespace StoredRoutines.Text

/-- The number of bytes of a text in its UTF-8 encoding. -/
def byteLength : List Char → Nat
  | [] => 0
  | c :: rest => c.utf8Size + byteLength rest

theorem byteLength_append (s t : List Char) :
    byteLength (s ++ t) = byteLength s + byteLength t := by
  induction s with
  | nil => simp [byteLength]
  | cons c rest ih => rw [List.cons_append, byteLength, byteLength, ih, Nat.add_assoc]

/-- No text of at least one character is without bytes. -/
theorem byteLength_pos {s : List Char} (h : s ≠ []) : 0 < byteLength s := by
  cases s with
  | nil => exact absurd rfl h
  | cons c rest =>
    have := c.utf8Size_pos
    simp only [byteLength]
    omega

end StoredRoutines.Text
