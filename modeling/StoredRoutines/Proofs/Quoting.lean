import StoredRoutines.Sql.Quoting

/-!
# Literals

A string literal ends where its text ends, whatever follows it.

## Main definitions

- `Sql.unescape?` — the character that an escaped text begins with

## Main results

- `Sql.literal_append_inj` — a literal at the start of a text determines its text
-/

namespace StoredRoutines.Sql

/-- The character that an escaped text begins with, and what follows it. -/
def unescape? : List Char → Option (Char × List Char)
  | '\\' :: '0' :: rest => some ('\x00', rest)
  | '\\' :: 'n' :: rest => some ('\n', rest)
  | '\\' :: 'r' :: rest => some ('\r', rest)
  | '\\' :: 'Z' :: rest => some ('\x1a', rest)
  | '\\' :: c :: rest => some (c, rest)
  | '\x27' :: _ => none
  | c :: rest => some (c, rest)
  | [] => none

theorem unescape?_escapeChar (c : Char) (rest : List Char) :
    unescape? (escapeChar c ++ rest) = some (c, rest) := by
  unfold escapeChar
  split
  · next h => subst h; rfl
  split
  · next h => subst h; rfl
  split
  · next h => subst h; rfl
  split
  · next h => subst h; rfl
  split
  · next h => subst h; rfl
  split
  · next h => subst h; rfl
  split
  · next h => subst h; rfl
  · next hslash hquote _ _ =>
    rw [List.singleton_append]
    unfold unescape?
    split <;> simp_all

/-- Escaped texts that are followed by a quote are the same only if the texts are. -/
theorem flatMap_escapeChar_inj {a b r s : List Char}
    (h : a.flatMap escapeChar ++ '\x27' :: r = b.flatMap escapeChar ++ '\x27' :: s) :
    a = b ∧ r = s := by
  induction a generalizing b with
  | nil =>
    cases b with
    | nil => exact ⟨rfl, (List.cons.inj h).2⟩
    | cons d b =>
      have hread := congrArg unescape? h
      rw [List.flatMap_cons, List.append_assoc, unescape?_escapeChar] at hread
      cases hread
  | cons c a ih =>
    have hread := congrArg unescape? h
    rw [List.flatMap_cons, List.append_assoc, unescape?_escapeChar] at hread
    cases b with
    | nil => cases hread
    | cons d b =>
      rw [List.flatMap_cons, List.append_assoc, unescape?_escapeChar, Option.some.injEq,
        Prod.mk.injEq] at hread
      obtain ⟨rfl, hrest⟩ := hread
      obtain ⟨rfl, hr⟩ := ih hrest
      exact ⟨rfl, hr⟩

theorem literal_toList (text : String) :
    (literal text).toList = '\x27' :: (text.toList.flatMap escapeChar ++ ['\x27']) := by
  simp [literal, escape]

/-- Of two texts that begin with literals and are equal, the literals and what follows them are
    equal. -/
theorem literal_append_inj {a b : String} {r s : List Char}
    (h : (literal a).toList ++ r = (literal b).toList ++ s) : a = b ∧ r = s := by
  rw [literal_toList, literal_toList] at h
  have hinner : a.toList.flatMap escapeChar ++ '\x27' :: r =
      b.toList.flatMap escapeChar ++ '\x27' :: s := by
    simpa using h
  obtain ⟨hab, hr⟩ := flatMap_escapeChar_inj hinner
  exact ⟨String.toList_inj.1 hab, hr⟩

end StoredRoutines.Sql
