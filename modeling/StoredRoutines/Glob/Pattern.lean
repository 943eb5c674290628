import StoredRoutines.Glob.Expression

/-!
# Patterns

Paths are selected by patterns with wildcards, classes and alternatives.

## Main definitions

- `GlobError` — what is wrong with a pattern
- `Token` — a part of a pattern
- `Pattern.parse` — the parts of a pattern
- `Pattern.expression` — the regular expression it amounts to
- `Pattern.selects` — whether it selects a path

## Design notes

A pattern is read character by character. `Progress` holds what has been read: the parts of the
innermost open group, the groups around it, and the class that is being read if there is one.
Wildcards stand for bytes and not for characters; a character of a class stands for each of its
bytes.
-/

namespace StoredRoutines.Glob

/-- What is wrong with a pattern. -/
inductive GlobError where
  /-- A class without a closing bracket. -/
  | unclosedClass
  /-- A range whose end lies before its start. -/
  | invalidRange (first last : Char)
  /-- An opening brace without a closing one. -/
  | unclosedGroup
  /-- A closing brace without an opening one. -/
  | unopenedGroup
  /-- A backslash with nothing behind it. -/
  | danglingEscape
  deriving DecidableEq, Repr

/-- The wording of what is wrong with a pattern. -/
def GlobError.message : GlobError → String
  | unclosedClass => "unclosed character class; missing ']'"
  | invalidRange first last =>
    "invalid range; '" ++ String.singleton first ++ "' > '" ++ String.singleton last ++ "'"
  | unclosedGroup =>
    "unclosed alternate group; missing '\x7d' (maybe escape '\x7b' with '[\x7b]'?)"
  | unopenedGroup =>
    "unopened alternate group; missing '\x7b' (maybe escape '\x7d' with '[\x7d]'?)"
  | danglingEscape => "dangling '\\'"

/-- A part of a pattern. -/
inductive Token where
  /-- A character that stands for itself. -/
  | literal (c : Char)
  /-- A single byte. -/
  | any
  /-- Any bytes. -/
  | star
  /-- Any directories at the start. -/
  | leading
  /-- Anything below a directory. -/
  | trailing
  /-- Any directories between two others. -/
  | middle
  /-- A byte of a class. -/
  | oneOf (negated : Bool) (ranges : List (Char × Char))
  /-- One of several patterns. -/
  | alternatives (branches : List (List Token))
  deriving Repr

/-- A group that is open: its branches so far, and the parts before it. Both are reversed. -/
structure Group where
  /-- The branches that have been read. -/
  branches : List (List Token)
  /-- The parts before the group. -/
  before : List Token

/-- A class that is being read. -/
structure OpenClass where
  /-- Whether it holds the bytes that are not listed. -/
  negated : Bool
  /-- The ranges so far, reversed. -/
  ranges : List (Char × Char)
  /-- Whether nothing has been read yet. -/
  fresh : Bool
  /-- Whether a hyphen after a character has been read. -/
  inRange : Bool

/-- What has been read of a pattern. -/
structure Progress where
  /-- The parts of the innermost group or branch, reversed. -/
  parts : List Token
  /-- The open groups, the innermost first. -/
  groups : List Group
  /-- The character before the next one. -/
  previous : Option Char
  /-- The class that is being read. -/
  openClass : Option OpenClass

namespace Progress

/-- The beginning of a pattern. -/
def start : Progress := ⟨[], [], none, none⟩

/-- A part is added after the character `c`. -/
def add (p : Progress) (t : Token) (c : Char) : Progress :=
  { p with parts := t :: p.parts, previous := some c }

/-- Two asterisks that are no more than two wildcards. -/
def addStars (p : Progress) : Progress :=
  (p.add .star '*').add .star '*'

/-- Two asterisks that stand for directories take the place of the part before them, which is the
    slash unless a comma or a brace is escaped there. -/
def replaceLast (p : Progress) (t : Token) (c : Char) : Progress :=
  match p.parts with
  | .leading :: _ => { p with previous := some c }
  | .trailing :: _ => { p with previous := some c }
  | _ :: before => { p with parts := t :: before, previous := some c }
  | [] => { p with parts := [t], previous := some c }

/-- Whether two asterisks that do not begin a branch may stand for directories here: behind a
    slash, and in a group also behind a comma or an opening brace. -/
def mayDescend (p : Progress) : Bool :=
  match p.previous with
  | some c => c == '/' || (!p.groups.isEmpty && (c == ',' || c == '\x7b'))
  | none => false

/-- A character of the class that is being read; `none` if the class ends with it. -/
def classChar (k : OpenClass) (c : Char) : Except GlobError (Option OpenClass) :=
  if c = ']' ∧ !k.fresh then .ok none
  else if c = '-' ∧ !k.fresh ∧ !k.inRange then .ok (some { k with inRange := true })
  else if k.inRange then
    match k.ranges with
    | (first, _) :: rest =>
      if c < first then .error (.invalidRange first c)
      else .ok (some { k with ranges := (first, c) :: rest, inRange := false })
    | [] => .ok (some { k with ranges := [(c, c)], inRange := false })
  else .ok (some { k with ranges := (c, c) :: k.ranges, fresh := false })

/-- The part that a finished class makes up; a hyphen at its end stands for itself. -/
def classToken (k : OpenClass) : Token :=
  .oneOf k.negated ((if k.inRange then ('-', '-') :: k.ranges else k.ranges).reverse)

/-- An opening brace. -/
def openGroup (p : Progress) : Progress :=
  { p with parts := [], groups := ⟨[], p.parts⟩ :: p.groups, previous := some '\x7b' }

/-- A closing brace. -/
def closeGroup (p : Progress) : Except GlobError Progress :=
  match p.groups with
  | [] => .error .unopenedGroup
  | g :: groups =>
    let branches := (p.parts :: g.branches).map List.reverse
    .ok { p with
      parts := .alternatives branches.reverse :: g.before
      groups := groups
      previous := some '\x7d' }

/-- A comma, which separates the branches of a group. -/
def comma (p : Progress) : Progress :=
  match p.groups with
  | [] => p.add (.literal ',') ','
  | g :: groups =>
    { p with
      parts := []
      groups := { g with branches := p.parts :: g.branches } :: groups
      previous := some ',' }

end Progress

open Progress in
/-- The parts of the rest of a pattern, added to those that have been read. -/
def parseFrom (p : Progress) : List Char → Except GlobError (List Token)
  | [] =>
    if p.openClass.isSome then .error .unclosedClass
    else if p.groups.isEmpty then .ok p.parts.reverse
    else .error .unclosedGroup
  | c :: rest =>
    match p.openClass with
    | some k =>
      match classChar k c with
      | .error e => .error e
      | .ok (some k) => parseFrom { p with openClass := some k, previous := some c } rest
      | .ok none => parseFrom ({ p with openClass := none }.add (classToken k) c) rest
    | none =>
      match c, rest with
      | '?', rest => parseFrom (p.add .any '?') rest
      | '*', '*' :: rest =>
        if p.parts.isEmpty then
          match rest with
          | [] => parseFrom (p.add .leading '*') []
          | '/' :: rest => parseFrom (p.add .leading '/') rest
          | rest => parseFrom p.addStars rest
        else if p.mayDescend then
          match rest with
          | [] => parseFrom (p.replaceLast .trailing '*') []
          | '/' :: rest => parseFrom (p.replaceLast .middle '/') rest
          | d :: rest =>
            if !p.groups.isEmpty && (d == ',' || d == '\x7d') then
              parseFrom (p.replaceLast .trailing '*') (d :: rest)
            else parseFrom p.addStars (d :: rest)
        else parseFrom p.addStars rest
      | '*', rest => parseFrom (p.add .star '*') rest
      | '[', '!' :: rest =>
        parseFrom { p with openClass := some ⟨true, [], true, false⟩, previous := some '!' } rest
      | '[', '^' :: rest =>
        parseFrom { p with openClass := some ⟨true, [], true, false⟩, previous := some '^' } rest
      | '[', rest =>
        parseFrom { p with openClass := some ⟨false, [], true, false⟩, previous := some '[' } rest
      | '\x7b', rest => parseFrom p.openGroup rest
      | '\x7d', rest =>
        match p.closeGroup with
        | .error e => .error e
        | .ok p => parseFrom p rest
      | ',', rest => parseFrom p.comma rest
      | '\\', [] => .error .danglingEscape
      | '\\', d :: rest => parseFrom (p.add (.literal d) d) rest
      | c, rest => parseFrom (p.add (.literal c) c) rest

/-- A pattern: its text and its parts. -/
structure Pattern where
  /-- The pattern as it is written. -/
  text : String
  /-- What it consists of. -/
  parts : List Token

namespace Pattern

/-- The bytes of a text in UTF-8. -/
def bytes (s : List Char) : List UInt8 :=
  s.flatMap String.utf8EncodeChar

/-- The byte ranges that a range of characters stands for. -/
def byteRanges (first last : Char) : List (UInt8 × UInt8) :=
  let single := fun b : UInt8 => (b, b)
  let low := String.utf8EncodeChar first
  let high := String.utf8EncodeChar last
  if first = last then low.map single
  else
    match low.getLast?, high with
    | some a, b :: rest => low.dropLast.map single ++ (a, b) :: rest.map single
    | _, _ => []

/-- The slash. -/
def slash : Expression := .byte 0x2F

/-- Nothing, a slash, or anything that ends with a slash. -/
def directories : Expression :=
  .group (.choice [.optional slash, .row [.anything, slash]])

/-- A slash, or anything between two slashes. -/
def directoriesBetween : Expression :=
  .group (.choice [slash, .row [slash, .anything, slash]])

mutual

/-- The expressions that a part amounts to. A group of empty branches amounts to none. -/
def partExpressions : Token → List Expression
  | .literal c => (bytes [c]).map .byte
  | .any => [.any]
  | .star => [.anything]
  | .leading => [directories]
  | .trailing => [slash, .anything]
  | .middle => [directoriesBetween]
  | .oneOf negated ranges => [.oneOf ⟨negated, ranges.flatMap fun r => byteRanges r.1 r.2⟩]
  | .alternatives branches =>
    match branchExpressions branches with
    | [] => []
    | es => [.group (.ofChoice es)]

/-- The expressions that parts amount to one after another. -/
def rowExpressions : List Token → List Expression
  | [] => []
  | t :: rest => partExpressions t ++ rowExpressions rest

/-- The expressions of several branches, the empty ones left out. -/
def branchExpressions : List (List Token) → List Expression
  | [] => []
  | b :: rest =>
    match rowExpressions b with
    | [] => branchExpressions rest
    | es => .ofRow es :: branchExpressions rest

end

/-- The expression that a pattern amounts to. Two asterisks alone stand for anything. -/
def expression (p : Pattern) : Expression :=
  match p.parts with
  | [.leading] => .row [.anything]
  | parts => .row (rowExpressions parts)

/-- The pattern of a text. -/
def parse (text : String) : Except GlobError Pattern :=
  (parseFrom Progress.start text.toList).map fun parts => ⟨text, parts⟩

/-- Whether a pattern selects a path, given relative to the directory it is looked for in. -/
def selects (p : Pattern) (path : String) : Bool :=
  p.expression.holds (bytes path.toList)

end Pattern

end StoredRoutines.Glob
