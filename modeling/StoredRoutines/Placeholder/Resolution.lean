import StoredRoutines.LoadError
import StoredRoutines.Placeholder.Table
import StoredRoutines.Placeholder.Token

/-!
# Resolving placeholders

Every token of a source is looked up in a table; the tokens without a value are collected
instead of ending the search.

## Main definitions

- `Resolution` — the tokens of a text, as written, with their values, and the unknown ones
- `Resolution.complete` — the values, provided that no token is unknown
- `collect` — the resolution of a text
- `linesWithTokens` — the numbered lines in which one of some tokens occurs
-/

namespace StoredRoutines.Placeholder

/-- What became of the tokens of a text. -/
structure Resolution where
  /-- The known tokens, as written in the text, with their values. -/
  replace : SortedMap String
  /-- The distinct unknown tokens in ascending order. -/
  unknown : List String
  deriving DecidableEq

/-- The values of all tokens; unknown tokens are refused together. -/
def Resolution.complete (r : Resolution) : Except LoadError (SortedMap String) :=
  if r.unknown ≠ [] then .error (.unknownPlaceholder r.unknown) else .ok r.replace

/-- A known token with its value. -/
def known? (table : Table) (token : String) : Option (String × String) :=
  (table.get? token).map fun value => (token, value)

/-- The resolution of a text. -/
def collect (text : String) (table : Table) : Resolution where
  replace := SortedMap.ofList ((tokens text).filterMap (known? table))
  unknown := sortedDistinct ((tokens text).filter fun t => (table.get? t).isNone)

/-- The lines of a text, numbered from one, in which one of the given tokens occurs. -/
def linesWithTokens (text : String) (wanted : List String) : List (Nat × String) :=
  ((Text.lines text).zipIdx 1).filterMap fun (line, number) =>
    if wanted.any fun t => Text.hasSubtext t.toList line.toList then some (number, line) else none

end StoredRoutines.Placeholder
