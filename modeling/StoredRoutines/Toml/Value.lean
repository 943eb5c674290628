/-!
# TOML values and tables

Values, and how tables grow while a document is read.

## Main definitions

- `Toml` — the values
- `Toml.Origin` — how a table came about
- `Toml.Entry` — a value or an unfinished table
- `Toml.within?`, `Toml.withinDotted?` — a change in the table that a header or a dotted key names
- `Toml.defineTable?`, `Toml.defineItem?`, `Toml.defineValue?` — what headers and keys add

## Design notes

A table may be named in several places but defined in one only. Its origin tells whether it may
still be defined by a header, extended by dotted keys, or neither. A value that is written in
braces or brackets is finished with it and never extended.
-/

namespace StoredRoutines

/-- A value of a document. -/
inductive Toml where
  /-- A text. -/
  | string (text : String)
  /-- A whole number. -/
  | integer (n : Int)
  /-- A number with a fraction or an exponent, as it is written. -/
  | float (written : String)
  /-- A truth value. -/
  | boolean (b : Bool)
  /-- A date, a time or both, as it is written. -/
  | moment (written : String)
  /-- A list of values. -/
  | array (items : List Toml)
  /-- A table. -/
  | table (members : List (String × Toml))

namespace Toml

/-- How a table came about. -/
inductive Origin where
  /-- A header defines it. -/
  | header
  /-- The header of a table within it mentions it. -/
  | mentioned
  /-- A dotted key defines it. -/
  | dotted
  deriving DecidableEq, Repr

/-- What a key of an unfinished table stands for. -/
inductive Entry where
  /-- A finished value. -/
  | value (v : Toml)
  /-- A table that may grow. -/
  | table (origin : Origin) (members : List (String × Entry))
  /-- A list of tables that may grow, the last one first. -/
  | tables (items : List (List (String × Entry)))

/-- The entries of an unfinished table. -/
abbrev Entries : Type := List (String × Entry)

/-- The entries with a change to the entry of a key, which may be missing before. -/
def alter? (key : String) (change : Option Entry → Option Entry) (es : Entries) :
    Option Entries :=
  match es.lookup key with
  | none => (change none).map fun e => es ++ [(key, e)]
  | some old =>
    (change (some old)).map fun e => es.map fun p => if p.1 = key then (key, e) else p

/-- A change in the table that a header names. Tables on the way that are missing are mentioned
    by it; a list of tables stands for its last one. -/
def within? (change : Entries → Option Entries) : List String → Entries → Option Entries
  | [], es => change es
  | key :: path, es =>
    alter? key (fun
      | none => (within? change path []).map (Entry.table .mentioned)
      | some (.table origin inner) => (within? change path inner).map (Entry.table origin)
      | some (.tables (last :: before)) =>
        (within? change path last).map fun last => .tables (last :: before)
      | some (.tables []) => none
      | some (.value _) => none) es

/-- A change in the table that a dotted key names. A table that a header defines cannot be
    extended like this, and the table that is changed must itself come from dotted keys. -/
def withinDotted? (change : Entries → Option Entries) : List String → Entries → Option Entries
  | [], es => change es
  | key :: path, es =>
    alter? key (fun
      | none => (withinDotted? change path []).map (Entry.table .dotted)
      | some (.table .header _) => none
      | some (.table .dotted inner) =>
        (withinDotted? change path inner).map (Entry.table .dotted)
      | some (.table .mentioned inner) =>
        if path.isEmpty then none
        else (withinDotted? change path inner).map (Entry.table .mentioned)
      | some (.tables (last :: before)) =>
        if path.isEmpty then none
        else (withinDotted? change path last).map fun last => .tables (last :: before)
      | some (.tables []) => none
      | some (.value _) => none) es

/-- A table defined by a header. -/
def defineTable? (key : String) (es : Entries) : Option Entries :=
  alter? key (fun
    | none => some (.table .header [])
    | some (.table .mentioned inner) => some (.table .header inner)
    | _ => none) es

/-- A table added to a list of tables by a header. -/
def defineItem? (key : String) (es : Entries) : Option Entries :=
  alter? key (fun
    | none => some (.tables [[]])
    | some (.tables items) => some (.tables ([] :: items))
    | _ => none) es

/-- A key bound to a value; it must be new. -/
def defineValue? (key : String) (v : Toml) (es : Entries) : Option Entries :=
  alter? key (fun
    | none => some (.value v)
    | some _ => none) es

mutual

/-- The value of an entry. -/
def Entry.toToml : Entry → Toml
  | .value v => v
  | .table _ members => .table (finishEntries members)
  | .tables items => .array (finishTables items).reverse

/-- The members of a finished table. -/
def finishEntries : List (String × Entry) → List (String × Toml)
  | [] => []
  | e :: rest => (e.1, e.2.toToml) :: finishEntries rest

/-- The tables of a finished list. -/
def finishTables : List (List (String × Entry)) → List Toml
  | [] => []
  | t :: rest => .table (finishEntries t) :: finishTables rest

end

end Toml

end StoredRoutines
