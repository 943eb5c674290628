import StoredRoutines.SortedMap
import StoredRoutines.Text.Uppercase

/-!
# Placeholder tables

The values that placeholders stand for, found without regard to upper and lower case.

## Main definitions

- `Table` — upper-case tokens with their values
- `Table.insert`, `Table.get?` — both look at the token in upper case
- `Table.extend` — the entries of two tables, those of the second replacing those of the first
-/

namespace StoredRoutines.Placeholder

/-- The upper-case form of a token, under which a table holds it. -/
def fold (token : String) : String :=
  String.ofList (Text.uppercase token.toList)

/-- The values of placeholders. -/
structure Table where
  /-- The values by upper-case token. -/
  entries : SortedMap String
  deriving DecidableEq

namespace Table

/-- The table without entries. -/
def empty : Table := ⟨SortedMap.empty⟩

/-- The table in which a token stands for `value`. -/
def insert (t : Table) (token value : String) : Table :=
  ⟨t.entries.insert (fold token) value⟩

/-- The value of a token. -/
def get? (t : Table) (token : String) : Option String :=
  t.entries.get? (fold token)

/-- The entries of both tables; those of the second replace those of the first. -/
def extend (t u : Table) : Table :=
  ⟨t.entries.union u.entries⟩

/-- The table built by inserting the pairs one after the other. -/
def ofList (pairs : List (String × String)) : Table :=
  pairs.foldl (fun t p => t.insert p.1 p.2) empty

/-- A token is found again by every spelling that folds like it, and no other token is touched. -/
theorem get?_insert (t : Table) (token token' value : String) :
    (t.insert token value).get? token' =
      if fold token' = fold token then some value else t.get? token' :=
  SortedMap.get?_insert _ _ _ _

end Table

end StoredRoutines.Placeholder
