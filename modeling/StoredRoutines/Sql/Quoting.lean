/-!
# Quoting

Texts as SQL string literals and names as quoted identifiers.

## Main definitions

- `escapeChar`, `escape` — a text between single quotes
- `literal` — the whole literal
- `quoteIdentifier` — a name between back quotes
-/

namespace StoredRoutines.Sql

/-- The back quote, which encloses identifiers. -/
def backQuote : Char := '\x60'

/-- A character inside a string literal. -/
def escapeChar (c : Char) : List Char :=
  if c = '\x00' then ['\\', '0']
  else if c = '\n' then ['\\', 'n']
  else if c = '\r' then ['\\', 'r']
  else if c = '\\' then ['\\', '\\']
  else if c = '\x27' then ['\\', '\x27']
  else if c = '"' then ['\\', '"']
  else if c = '\x1a' then ['\\', 'Z']
  else [c]

/-- A text inside a string literal. -/
def escape (text : String) : String :=
  String.ofList (text.toList.flatMap escapeChar)

/-- A text as a string literal. -/
def literal (text : String) : String :=
  "'" ++ escape text ++ "'"

/-- A character inside a quoted identifier. -/
def doubleBackQuote (c : Char) : List Char :=
  if c = backQuote then [backQuote, backQuote] else [c]

/-- A name as a quoted identifier. -/
def quoteIdentifier (name : String) : String :=
  String.ofList (backQuote :: (name.toList.flatMap doubleBackQuote ++ [backQuote]))

end StoredRoutines.Sql
