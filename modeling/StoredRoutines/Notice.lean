/-!
# Notices

What a run reports while it works, in the order in which it happens.

## Main definitions

- `Severity` — how grave a notice is
- `Notice` — a severity and a text
-/

namespace StoredRoutines

/-- How grave a notice is. -/
inductive Severity where
  | info
  | warning
  | error
  deriving DecidableEq, Repr

/-- A message to the user that does not by itself change the outcome. -/
structure Notice where
  /-- How grave it is. -/
  severity : Severity
  /-- What is reported. -/
  text : String
  deriving DecidableEq, Repr

namespace Notice

/-- A notice of progress. -/
def info (text : String) : Notice := ⟨.info, text⟩

/-- A notice of something that looks wrong. -/
def warning (text : String) : Notice := ⟨.warning, text⟩

/-- A notice of a failure. -/
def error (text : String) : Notice := ⟨.error, text⟩

end Notice

end StoredRoutines
