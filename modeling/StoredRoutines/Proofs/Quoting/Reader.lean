import StoredRoutines.Proofs.Load.Routine
import StoredRoutines.Proofs.Quoting
import StoredRoutines.Proofs.Signature.Name

/-!
# Reading what was quoted

A server reads a literal or a quoted identifier up to the quote that closes it. What was quoted is
read to its end and not beyond, and the text or the name is got back. The location constants of a
source are such literals.

## Main definitions

- `Sql.readQuoted?` — what stands between quotes, with or without escapes
- `Sql.readLiteral?`, `Sql.readIdentifier?` — a string literal and a quoted identifier

## Main results

- `Sql.readLiteral?_literal`, `Sql.readIdentifier?_quoteIdentifier`
- `Source.location_literals` — the location constants of a source that has been accepted
- `Source.quoted_read` — whatever is quoted is read back
-/

namespace StoredRoutines

namespace Sql

/-! ### The reader -/

/-- The character for which another one stands behind a backslash. -/
def unescaped (c : Char) : Char :=
  if c = '0' then '\x00'
  else if c = 'n' then '\n'
  else if c = 'r' then '\r'
  else if c = 'Z' then '\x1a'
  else c

/-- What stands between quotes up to the one that closes it, and what follows that one. A quote that
    is written twice is part of the text, and so is the character behind a backslash where there are
    escapes. -/
def readQuoted? (quote : Char) (escapes : Bool) : List Char → Option (List Char × List Char)
  | [] => none
  | [c] => if c = quote then some ([], []) else none
  | c :: d :: rest =>
    if escapes && c == '\\' then
      (readQuoted? quote escapes rest).map (Prod.map (unescaped d :: ·) id)
    else if c = quote then
      if d = quote then (readQuoted? quote escapes rest).map (Prod.map (quote :: ·) id)
      else some ([], d :: rest)
    else (readQuoted? quote escapes (d :: rest)).map (Prod.map (c :: ·) id)

/-- The string literal that a text begins with: what it says, and what follows it. -/
def readLiteral? : List Char → Option (String × List Char)
  | [] => none
  | c :: rest =>
    if c = '\x27' then (readQuoted? '\x27' true rest).map (Prod.map String.ofList id) else none

/-- The quoted identifier that a text begins with: its name, and what follows it. -/
def readIdentifier? : List Char → Option (String × List Char)
  | [] => none
  | c :: rest =>
    if c = backQuote then (readQuoted? backQuote false rest).map (Prod.map String.ofList id)
    else none

variable {quote : Char} {escapes : Bool} {c : Char} {rest tail : List Char}

/-- A quote that is not doubled closes the literal. -/
theorem readQuoted?_closing (hescapes : escapes = true → quote ≠ '\\')
    (htail : tail.head? ≠ some quote) :
    readQuoted? quote escapes (quote :: tail) = some ([], tail) := by
  cases tail with
  | nil => rw [readQuoted?, if_pos rfl]
  | cons d tail =>
    have hd : d ≠ quote := fun h => htail (h ▸ rfl)
    have hslash : (escapes && quote == '\\') = false := by simpa using hescapes
    rw [readQuoted?, hslash, if_neg Bool.false_ne_true, if_pos rfl, if_neg hd]

/-- A doubled quote stands for one. -/
theorem readQuoted?_doubled (hescapes : escapes = true → quote ≠ '\\') :
    readQuoted? quote escapes (quote :: quote :: rest) =
      (readQuoted? quote escapes rest).map (Prod.map (quote :: ·) id) := by
  have hslash : (escapes && quote == '\\') = false := by simpa using hescapes
  rw [readQuoted?, hslash, if_neg Bool.false_ne_true, if_pos rfl, if_pos rfl]

/-- Behind a backslash a character stands for what it escapes. -/
theorem readQuoted?_escaped :
    readQuoted? quote true ('\\' :: c :: rest) =
      (readQuoted? quote true rest).map (Prod.map (unescaped c :: ·) id) := by
  rw [readQuoted?, if_pos (by decide)]

/-- Any other character stands for itself. -/
theorem readQuoted?_plain (hquote : c ≠ quote) (hescapes : escapes = true → c ≠ '\\') :
    readQuoted? quote escapes (c :: rest) =
      (readQuoted? quote escapes rest).map (Prod.map (c :: ·) id) := by
  cases rest with
  | nil => rw [readQuoted?, Option.map_none, readQuoted?, if_neg hquote]
  | cons d rest =>
    have hslash : (escapes && c == '\\') = false := by simpa using hescapes
    rw [readQuoted?, hslash, if_neg Bool.false_ne_true, if_neg hquote]

/-- Texts whose characters are read one by one are read as a whole. -/
theorem readQuoted?_flatMap {encode : Char → List Char}
    (hencode : ∀ c rest, readQuoted? quote escapes (encode c ++ rest) =
      (readQuoted? quote escapes rest).map (Prod.map (c :: ·) id))
    (hescapes : escapes = true → quote ≠ '\\') (htail : tail.head? ≠ some quote) (s : List Char) :
    readQuoted? quote escapes (s.flatMap encode ++ quote :: tail) = some (s, tail) := by
  induction s with
  | nil => exact readQuoted?_closing hescapes htail
  | cons c s ih =>
    rw [List.flatMap_cons, List.append_assoc, hencode, ih]
    rfl

/-! ### Literals -/

/-- A character is escaped with a backslash, unless it means nothing in a literal. -/
theorem escapeChar_cases (c : Char) :
    (∃ d, escapeChar c = ['\\', d] ∧ unescaped d = c) ∨
      escapeChar c = [c] ∧ c ≠ '\\' ∧ c ≠ '\x27' := by
  unfold escapeChar
  split
  · next h => exact .inl ⟨'0', rfl, h.symm⟩
  split
  · next h => exact .inl ⟨'n', rfl, h.symm⟩
  split
  · next h => exact .inl ⟨'r', rfl, h.symm⟩
  split
  · next h => exact .inl ⟨'\\', rfl, h.symm⟩
  split
  · next h => exact .inl ⟨'\x27', rfl, h.symm⟩
  split
  · next h => exact .inl ⟨'"', rfl, h.symm⟩
  split
  · next h => exact .inl ⟨'Z', rfl, h.symm⟩
  · next hslash hquote _ _ => exact .inr ⟨rfl, hslash, hquote⟩

/-- An escaped character is read as it was. -/
theorem readQuoted?_escapeChar (c : Char) (rest : List Char) :
    readQuoted? '\x27' true (escapeChar c ++ rest) =
      (readQuoted? '\x27' true rest).map (Prod.map (c :: ·) id) := by
  rcases escapeChar_cases c with ⟨d, hd, rfl⟩ | ⟨hc, hslash, hquote⟩
  · rw [hd]
    exact readQuoted?_escaped
  · rw [hc]
    exact readQuoted?_plain hquote fun _ => hslash

/-- A literal is read up to its closing quote, and says the text that it was made of. -/
theorem readLiteral?_literal (text : String) (htail : tail.head? ≠ some '\x27') :
    readLiteral? ((literal text).toList ++ tail) = some (text, tail) := by
  have hread := readQuoted?_flatMap readQuoted?_escapeChar (fun _ => by decide) htail text.toList
  rw [literal_toList, List.cons_append, List.append_assoc, List.singleton_append, readLiteral?,
    if_pos rfl, hread, Option.map_some, Prod.map_apply, String.ofList_toList, id]

/-! ### Identifiers -/

/-- In back quotes a character is read as it was. -/
theorem readQuoted?_doubleBackQuote (c : Char) (rest : List Char) :
    readQuoted? backQuote false (doubleBackQuote c ++ rest) =
      (readQuoted? backQuote false rest).map (Prod.map (c :: ·) id) := by
  unfold doubleBackQuote
  split
  · next h =>
    rw [h]
    exact readQuoted?_doubled nofun
  · next h => exact readQuoted?_plain h nofun

/-- A quoted identifier is read up to its last quote, and has the name that was quoted. -/
theorem readIdentifier?_quoteIdentifier (name : String) (htail : tail.head? ≠ some backQuote) :
    readIdentifier? ((quoteIdentifier name).toList ++ tail) = some (name, tail) := by
  have hread := readQuoted?_flatMap readQuoted?_doubleBackQuote nofun htail name.toList
  rw [quoteIdentifier, String.toList_ofList, List.cons_append, List.append_assoc,
    List.singleton_append, readIdentifier?, if_pos rfl, hread, Option.map_some, Prod.map_apply,
    String.ofList_toList, id]

/-! ### Names without special characters -/

theorem escapeChar_of_isNameChar {c : Char} (h : Signature.isNameChar c = true) :
    escapeChar c = [c] := by
  have hne : ∀ d, Signature.isNameChar d = false → c ≠ d := by
    rintro d hd rfl
    rw [h] at hd
    cases hd
  rw [escapeChar, if_neg (hne _ (by decide)), if_neg (hne _ (by decide)),
    if_neg (hne _ (by decide)), if_neg (hne _ (by decide)), if_neg (hne _ (by decide)),
    if_neg (hne _ (by decide)), if_neg (hne _ (by decide))]

/-- Quotes around the name of a routine make a literal. -/
theorem literal_of_isNameChar {name : String}
    (h : ∀ c ∈ name.toList, Signature.isNameChar c = true) : literal name = "'" ++ name ++ "'" := by
  have hescape : name.toList.flatMap escapeChar = name.toList := by
    rw [List.flatMap_congr fun c hc => escapeChar_of_isNameChar (h c hc), List.flatMap_singleton']
  rw [literal, escape, hescape, String.ofList_toList]

end Sql

namespace Source

open Sql (readLiteral? readIdentifier? backQuote)

/-- The location constants of a source that has been accepted are literals. The name of the routine
    is not escaped, but it is the one that the text declares. -/
theorem location_literals {source : Source} {table : Placeholder.Table} {parsed : ParsedRoutine}
    (h : source.parse table = .ok parsed) :
    source.location parsed.name =
      ⟨Sql.literal source.path.text, Sql.literal source.routineName,
        Sql.literal source.path.directory⟩ := by
  obtain ⟨hname, -, hfind, hsignature, -⟩ := Loading.parse_eq_ok h
  have hrun := Signature.isRun_of_find? hfind
  rw [hsignature] at hrun
  rw [location, hname, Sql.literal_of_isNameChar hrun.all]

/-- Nothing that is quoted ends before its closing quote or goes on behind it. An escaped text
    between single quotes is read as this text, a quoted identifier as its name, and the location
    constants of an accepted source as its path, the name of its routine and its directory. -/
theorem quoted_read :
    (∀ (text : String) (tail : List Char), tail.head? ≠ some '\x27' →
      readLiteral? ('\x27' :: ((Sql.escape text).toList ++ '\x27' :: tail)) = some (text, tail)) ∧
    (∀ (name : String) (tail : List Char), tail.head? ≠ some backQuote →
      readIdentifier? ((Sql.quoteIdentifier name).toList ++ tail) = some (name, tail)) ∧
    ∀ (source : Source) (table : Placeholder.Table) (parsed : ParsedRoutine) (tail : List Char),
      source.parse table = .ok parsed → tail.head? ≠ some '\x27' →
        readLiteral? ((source.location parsed.name).file.toList ++ tail) =
          some (source.path.text, tail) ∧
        readLiteral? ((source.location parsed.name).routine.toList ++ tail) =
          some (source.routineName, tail) ∧
        readLiteral? ((source.location parsed.name).dir.toList ++ tail) =
          some (source.path.directory, tail) := by
  refine ⟨fun text tail htail => ?_, fun name tail htail => ?_, ?_⟩
  · have hread := Sql.readLiteral?_literal text htail
    rw [Sql.literal_toList] at hread
    simpa [Sql.escape] using hread
  · exact Sql.readIdentifier?_quoteIdentifier name htail
  · intro source table parsed tail hparse htail
    rw [location_literals hparse]
    exact ⟨Sql.readLiteral?_literal _ htail, Sql.readLiteral?_literal _ htail,
      Sql.readLiteral?_literal _ htail⟩

/-- A source in a directory with a quote and a backslash in its name. -/
def menu : Source where
  path := ⟨"/srv/chef's\\menus/menu.psql"⟩
  text := "create procedure menu()\n-- type: none\nbegin\nselect __FILE__;\nend\n"
  mtime := 1000

/-- A literal with backslashes and a quote, an identifier with a back quote, and the constants of a
    source, with something behind each of them. -/
theorem quoted_read_menu :
    readLiteral? "'C:\\\\psql\\\\it\\'s' and 1".toList = some ("C:\\psql\\it's", " and 1".toList) ∧
      readIdentifier? "\x60we\x60\x60ird\x60()".toList = some ("we\x60ird", "()".toList) ∧
      ∃ parsed, menu.parse .empty = .ok parsed ∧
        readLiteral? ((menu.location parsed.name).file.toList ++ ";".toList) =
          some ("/srv/chef's\\menus/menu.psql", ";".toList) ∧
        readLiteral? ((menu.location parsed.name).routine.toList ++ ";".toList) =
          some ("menu", ";".toList) ∧
        readLiteral? ((menu.location parsed.name).dir.toList ++ ";".toList) =
          some ("/srv/chef's\\menus", ";".toList) := by
  have hliteral : "'C:\\\\psql\\\\it\\'s' and 1".toList =
      '\x27' :: ((Sql.escape "C:\\psql\\it's").toList ++ '\x27' :: " and 1".toList) := by
    decide +kernel
  have hidentifier : "\x60we\x60\x60ird\x60()".toList =
      (Sql.quoteIdentifier "we\x60ird").toList ++ "()".toList := by decide +kernel
  have hparse : menu.parse .empty =
      .ok ⟨"menu", ⟨.procedure, "menu"⟩, ⟨.plain "none", none, []⟩, .empty, .empty⟩ := by
    decide +kernel
  have hname : menu.routineName = "menu" := by decide +kernel
  have hdirectory : menu.path.directory = "/srv/chef's\\menus" := by decide +kernel
  obtain ⟨hread, hreadIdentifier, hconstants⟩ := quoted_read
  refine ⟨?_, ?_, _, hparse, ?_⟩
  · rw [hliteral]
    exact hread _ _ (by decide)
  · rw [hidentifier]
    exact hreadIdentifier _ _ (by decide)
  · have hmenu := hconstants menu .empty _ ";".toList hparse (by decide)
    rwa [hname, hdirectory] at hmenu

end Source

end StoredRoutines
