import StoredRoutines.LoadError

/-!
# Signatures

The kind and the name of the routine that a source creates.

## Main definitions

- `Signature` — a kind and a name
- `Signature.atStart?` — the signature that a text begins with
- `Signature.find?` — the first signature of a text
- `Signature.check` — the signature of a source that has to carry its file's name

## Design notes

Letters are compared without regard to case by simple case folding. The letters of the keywords
fold to nothing outside ASCII, but two of the letters that may occur in a name do: the long s
and the Kelvin sign, which are therefore characters of names.
-/

namespace StoredRoutines

/-- What a `create procedure` or `create function` statement declares. -/
structure Signature where
  /-- Procedure or function. -/
  kind : RoutineKind
  /-- The name as written. -/
  name : String
  deriving DecidableEq, Repr

namespace Signature

/-- The characters of a routine's name: ASCII letters, digits and the low line, and the two
    characters that fold to ASCII letters. -/
def isNameChar (c : Char) : Bool :=
  c.isAlphanum || c == '_' || c == 'ſ' || c == '\u212A'

/-- What follows a keyword, given in lower case, that a text begins with in any case. -/
def afterKeyword? : List Char → List Char → Option (List Char)
  | [], s => some s
  | k :: ks, c :: rest => if c.toLower = k then afterKeyword? ks rest else none
  | _ :: _, [] => none

/-- The kind that a text begins with, and what follows it. -/
def kindAtStart? (s : List Char) : Option (RoutineKind × List Char) :=
  match afterKeyword? RoutineKind.procedure.word.toList s with
  | some rest => some (.procedure, rest)
  | none => (afterKeyword? RoutineKind.function.word.toList s).map fun rest => (.function, rest)

/-- The signature that a text begins with. -/
def atStart? (s : List Char) : Option Signature := do
  let s ← afterKeyword? "create".toList s
  let s ← Text.afterBlanks? s
  let (kind, s) ← kindAtStart? s
  let s ← Text.afterBlanks? s
  let name := s.takeWhile isNameChar
  if name.isEmpty then none else some ⟨kind, String.ofList name⟩

/-- The signature at the first position of a text where one stands. -/
def findIn? : List Char → Option Signature
  | [] => none
  | c :: rest =>
    match atStart? (c :: rest) with
    | some signature => some signature
    | none => findIn? rest

/-- The first signature of a text. -/
def find? (text : String) : Option Signature :=
  findIn? text.toList

/-- Whether a line holds a signature. -/
def isOnLine (line : String) : Bool :=
  (find? line).isSome

/-- The signature of a source whose file is named `expected`. -/
def check (text expected : String) : Except LoadError Signature :=
  match find? text with
  | none => .error .signatureNotFound
  | some signature =>
    if signature.name = expected then .ok signature
    else .error (.nameMismatch expected signature.name)

/-- An accepted signature is the first one of the source and carries the expected name. -/
theorem check_eq_ok_iff {text expected : String} {signature : Signature} :
    check text expected = .ok signature ↔
      find? text = some signature ∧ signature.name = expected := by
  unfold check
  split
  · next h => simp [h]
  · next s h =>
    split
    · next hname =>
      rw [h]
      constructor
      · rintro ⟨rfl⟩
        exact ⟨rfl, hname⟩
      · rintro ⟨⟨rfl⟩, -⟩
        rfl
    · next hname =>
      rw [h]
      constructor
      · intro hs
        cases hs
      · rintro ⟨⟨rfl⟩, hs⟩
        exact absurd hs hname

end Signature

end StoredRoutines
