import StoredRoutines.Database.Basic
import StoredRoutines.Notice

/-!
# Load sessions

Loading works on a database and reports as it goes along.

## Main definitions

- `Session` — the state of the database and the notices so far
- `Loading` — a computation on a session that may fail and keeps what it did before
- `ask`, `attempt` — an operation of the database, whose failure ends the computation or is an
  answer like any other
- `notify` — reports something
- `answer?`, `refused?`, `sessionOf`, `databaseOf` — what a computation has ended with
-/

namespace StoredRoutines

/-- The state of the database and the notices so far. -/
structure Session (σ : Type) where
  /-- The state of the database. -/
  database : σ
  /-- The notices in order of appearance. -/
  notices : List Notice

/-- A computation on a session. A failure keeps the session as it was when it happened. -/
abbrev Loading (σ ε α : Type) : Type := EStateM ε (Session σ) α

namespace Loading

variable {σ ε α : Type}

/-- An operation of the database; its failure ends the computation. -/
def ask (failed : DatabaseError → ε) (query : Query σ α) : Loading σ ε α := fun s =>
  match query s.database with
  | (.ok a, db) => .ok a { s with database := db }
  | (.error e, db) => .error (failed e) { s with database := db }

/-- An operation of the database; its failure is an answer. -/
def attempt (query : Query σ α) : Loading σ ε (Except DatabaseError α) := fun s =>
  match query s.database with
  | (answer, db) => .ok answer { s with database := db }

/-- Reports something. -/
def notify (notices : List Notice) : Loading σ ε Unit := fun s =>
  .ok () { s with notices := s.notices ++ notices }

/-- An outcome that was found without the session. -/
def ofExcept (outcome : Except ε α) : Loading σ ε α := fun s =>
  match outcome with
  | .ok a => .ok a s
  | .error e => .error e s

/-! ### How a computation ends -/

/-- The answer of a computation that has succeeded. -/
def answer? : EStateM.Result ε (Session σ) α → Option α
  | .ok a _ => some a
  | .error _ _ => none

/-- The reason for which a computation has failed. -/
def refused? : EStateM.Result ε (Session σ) α → Option ε
  | .ok _ _ => none
  | .error e _ => some e

/-- The session that a computation leaves, whether or not it has succeeded. -/
def sessionOf : EStateM.Result ε (Session σ) α → Session σ
  | .ok _ s => s
  | .error _ s => s

/-- The database that a computation leaves, whether or not it has succeeded. -/
def databaseOf : EStateM.Result ε (Session σ) α → σ
  | .ok _ s => s.database
  | .error _ s => s.database

/-- The answer and the session make up the outcome of a computation that has succeeded. -/
theorem eq_ok_of_answer? {r : EStateM.Result ε (Session σ) α} {a : α} (h : answer? r = some a) :
    r = .ok a (sessionOf r) := by
  cases r with
  | ok b s =>
    obtain rfl := Option.some.inj h
    rfl
  | error e s => cases h

/-- The reason and the session make up the outcome of a computation that has failed. -/
theorem eq_error_of_refused? {r : EStateM.Result ε (Session σ) α} {e : ε}
    (h : refused? r = some e) : r = .error e (sessionOf r) := by
  cases r with
  | ok a s => cases h
  | error c s =>
    obtain rfl := Option.some.inj h
    rfl

theorem ok_of_answer? {r : EStateM.Result ε (Session σ) α} {a : α} (h : answer? r = some a) :
    ∃ s, r = .ok a s :=
  ⟨_, eq_ok_of_answer? h⟩

end Loading

end StoredRoutines
