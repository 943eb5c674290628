import StoredRoutines.Path
import StoredRoutines.Text.Split

/-!
# Sources

An annotated source file with the text of one routine.

## Main definitions

- `Source` — path, text and modification time
- `Source.routineName` — the name of the routine, which is that of the file
- `Source.lines` — the lines of the text
-/

namespace StoredRoutines

/-- A source file. -/
structure Source where
  /-- Where it was read from. -/
  path : Path
  /-- Its text. -/
  text : String
  /-- When it was last modified, in seconds. -/
  mtime : Int64
  deriving DecidableEq

namespace Source

/-- The name of the routine of a source. -/
def routineName (source : Source) : String :=
  source.path.stem

/-- A line without the carriage return at its end. -/
def dropCarriageReturn (line : List Char) : List Char :=
  if line.getLast? = some '\r' then line.dropLast else line

/-- The lines of a text that ends its lines with a line feed or with a carriage return and a
    line feed. -/
def linesOf (text : String) : List String :=
  (Text.splitOn '\n' text.toList).map fun line => String.ofList (dropCarriageReturn line)

/-- The lines of a source. -/
def lines (source : Source) : List String :=
  linesOf source.text

end Source

end StoredRoutines
