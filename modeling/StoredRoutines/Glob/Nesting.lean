import StoredRoutines.Glob.Pattern

/-!
# The nesting of patterns

Patterns that are looked for together must not be nested too deeply.

## Main definitions

- `nestingLimit` — how deep the expression of a pattern may be
- `Pattern.method` — how a path is compared with a pattern
- `NestingError` — which of several patterns is nested too deeply
- `nestingError?` — whether one of several patterns is

## Design notes

Most patterns are a text with a wildcard at one end, or say nothing but what the last name of a
path is, and such patterns are never nested deeply. Of the others, those that end with an extension
are gone through first, each on its own. The rest make up one expression together, and a pattern of
theirs is named by its position among them.
-/

namespace StoredRoutines.Glob

/-- How deep the expression of a pattern may be. -/
def nestingLimit : Nat := 250

/-- How a path is compared with a pattern. -/
inductive Method where
  /-- A text is found in the path. -/
  | text
  /-- The last name of the path is compared character by character. -/
  | name
  /-- The path ends with an extension and stands for the expression. -/
  | extension
  /-- The path stands for the expression. -/
  | expression
  deriving DecidableEq, Repr

/-- Whether a part is a character that stands for itself. -/
def Token.isLiteral : Token → Bool
  | .literal _ => true
  | _ => false

/-- Whether a part is a character of an extension that is neither a point nor a slash. -/
def Token.isExtension : Token → Bool
  | .literal c => c != '.' && c != '/'
  | _ => false

/-- Whether a part is a single character, or a class of characters, that cannot be a slash. -/
def Token.isInName : Token → Bool
  | .literal c => c != '/'
  | .oneOf negated ranges => (ranges.any fun r => r.1 ≤ '/' && '/' ≤ r.2) == negated
  | _ => false

/-- Whether parts make up a text that is not empty. -/
def isText (parts : List Token) : Bool :=
  !parts.isEmpty && parts.all Token.isLiteral

/-- Whether parts make up a text behind a wildcard; a slash alone is none. -/
def isEnding : List Token → Bool
  | [.literal '/'] => false
  | parts => isText parts

/-- Whether parts make up a text before a wildcard. -/
def isBeginning (parts : List Token) : Bool :=
  match parts.getLast? with
  | some .star => isText parts.dropLast
  | some .trailing => parts.dropLast.all Token.isLiteral
  | _ => false

/-- Whether parts end with an extension: a point, and behind it neither a point nor a slash nor
    anything but characters that stand for themselves. -/
def endsWithExtension (parts : List Token) : Bool :=
  match parts.reverse.dropWhile Token.isExtension with
  | .literal '.' :: _ => true
  | _ => false

namespace Pattern

/-- Whether a pattern is a text with a wildcard at one end at most. -/
def isPlain (p : Pattern) : Bool :=
  match p.parts with
  | .leading :: .star :: rest => isEnding rest
  | .leading :: rest => isText rest
  | .star :: rest => isEnding rest
  | parts => isText parts || isBeginning parts

/-- Whether a pattern says what the last name of a path is, and nothing else. -/
def isName (p : Pattern) : Bool :=
  match p.parts with
  | .leading :: rest => !rest.isEmpty && rest.all Token.isInName
  | _ => false

/-- How a path is compared with a pattern. -/
def method (p : Pattern) : Method :=
  if p.isPlain then .text
  else if p.isName then .name
  else if endsWithExtension p.parts then .extension
  else .expression

/-- The expression of a pattern as it is written between the two ends of a path. -/
def expressionText (p : Pattern) : String :=
  "(?-u)^" ++ p.expression.text ++ "$"

/-- Whether a pattern is nested too deeply. -/
def isTooDeep (p : Pattern) : Bool :=
  nestingLimit < p.expression.depth

end Pattern

/-- Which of several patterns is nested too deeply. -/
inductive NestingError where
  /-- One that ends with an extension, given by its expression. -/
  | withExtension (expression : String)
  /-- One of the others, given by its position among them. -/
  | atPosition (position : Nat)
  deriving DecidableEq, Repr

/-- The wording of which pattern is nested too deeply. -/
def NestingError.message : NestingError → String
  | withExtension expression =>
    "error parsing glob '" ++ expression ++ "': error parsing pattern 0"
  | atPosition position => "error parsing pattern " ++ toString position

/-- The first of several patterns that is nested too deeply. -/
def nestingError? (ps : List Pattern) : Option NestingError :=
  let compared := fun m => ps.filter fun p => p.method = m
  match (compared .extension).find? Pattern.isTooDeep with
  | some p => some (.withExtension p.expressionText)
  | none => ((compared .expression).findIdx? Pattern.isTooDeep).map .atPosition

end StoredRoutines.Glob
