import StoredRoutines.Text.Split

/-!
# Placeholder tokens

A placeholder is written `@NAME@` or, for the type of a table column, `@TABLE.COLUMN%type@`.

## Main definitions

- `token?` — the token that a text begins with
- `Piece` — a token or a single character of a source text
- `scan` — the pieces of a text, from left to right
- `tokens` — the tokens of a text in order of appearance

## Design notes

`scanFrom` carries the number of characters that the token just found still covers. The scan
therefore recurses on the text itself, one character at a time, although a token moves it ahead
by its whole length; `scanFrom_eq` says that covering characters is the same as dropping them.
-/

namespace StoredRoutines.Placeholder

/-- The characters of a placeholder's name: ASCII letters and digits, low line and full stop. -/
def isNameChar (c : Char) : Bool :=
  c.isAlphanum || c == '_' || c == '.'

/-- The ending that marks the placeholder of a column type. -/
def typeSuffix : List Char := ['%', 't', 'y', 'p', 'e']

/-- The token that a text begins with: a commercial at, the longest run of name characters,
    an optional `%type` in lower case and another commercial at. -/
def token? : List Char → Option (List Char)
  | '@' :: rest =>
    let name := rest.takeWhile isNameChar
    if name.isEmpty then none
    else
      match rest.dropWhile isNameChar with
      | '@' :: _ => some ('@' :: (name ++ ['@']))
      | '%' :: 't' :: 'y' :: 'p' :: 'e' :: '@' :: _ => some ('@' :: (name ++ typeSuffix ++ ['@']))
      | _ => none
  | _ => none

/-- A piece of a source text. -/
inductive Piece where
  /-- An occurrence of a placeholder token. -/
  | token (text : List Char)
  /-- A character outside all tokens. -/
  | plain (c : Char)
  deriving DecidableEq, Repr

namespace Piece

/-- The characters that a piece stands for. -/
def text : Piece → List Char
  | token t => t
  | plain c => [c]

/-- The token of a piece. -/
def token? : Piece → Option (List Char)
  | token t => some t
  | plain _ => none

end Piece

/-- The pieces of a text of which the first `covered` characters belong to a token that has
    been listed already. -/
def scanFrom : Nat → List Char → List Piece
  | _, [] => []
  | covered + 1, _ :: rest => scanFrom covered rest
  | 0, c :: rest =>
    match token? (c :: rest) with
    | some t => .token t :: scanFrom (t.length - 1) rest
    | none => .plain c :: scanFrom 0 rest

/-- The pieces of a text. -/
def scan (s : List Char) : List Piece :=
  scanFrom 0 s

/-- The tokens of a text in order of appearance. -/
def tokens (text : String) : List String :=
  (scan text.toList).filterMap fun p => p.token?.map String.ofList

/-- A token is the beginning of the text it was found in. -/
theorem token?_isPrefix {s t : List Char} (h : token? s = some t) : t <+: s := by
  unfold token? at h
  split at h
  · next rest =>
    simp only at h
    split at h
    · simp at h
    · have hsplit := List.takeWhile_append_dropWhile (p := isNameChar) (l := rest)
      split at h
      · next tail hdrop =>
        cases h
        rw [hdrop] at hsplit
        refine ⟨tail, ?_⟩
        conv => rhs; rw [← hsplit]
        simp
      · next tail hdrop =>
        cases h
        rw [hdrop] at hsplit
        refine ⟨tail, ?_⟩
        conv => rhs; rw [← hsplit]
        simp [typeSuffix]
      · simp at h
  · simp at h

/-- A token has a first character. -/
theorem ne_nil_of_token? {s t : List Char} (h : token? s = some t) : t ≠ [] := by
  unfold token? at h
  split at h
  · simp only at h
    split at h
    · simp at h
    · split at h <;> simp at h <;> simp [← h]
  · simp at h

/-- Characters that are covered are passed over. -/
theorem scanFrom_eq (covered : Nat) (s : List Char) :
    scanFrom covered s = scan (s.drop covered) := by
  induction covered generalizing s with
  | zero => rfl
  | succ n ih =>
    cases s with
    | nil => simp [scan, scanFrom]
    | cons c rest => simpa [scanFrom] using ih rest

theorem scan_nil : scan [] = [] := rfl

/-- Where no token begins, a character is a piece by itself. -/
theorem scan_plain {c : Char} {rest : List Char} (h : token? (c :: rest) = none) :
    scan (c :: rest) = .plain c :: scan rest := by
  simp [scan, scanFrom, h]

/-- A token is a piece, and the scan goes on behind it. -/
theorem scan_token {s t : List Char} (h : token? s = some t) :
    scan s = .token t :: scan (s.drop t.length) := by
  cases s with
  | nil => simp [token?] at h
  | cons c rest =>
    cases t with
    | nil => exact absurd rfl (ne_nil_of_token? h)
    | cons d t =>
      rw [scan, scanFrom, h]
      simp [scanFrom_eq]

/-- Nothing is lost: the pieces join up to the text. -/
theorem flatMap_text_scan (s : List Char) : (scan s).flatMap Piece.text = s := by
  match s with
  | [] => rfl
  | c :: rest =>
    match h : token? (c :: rest) with
    | none => rw [scan_plain h, List.flatMap_cons, flatMap_text_scan rest]; rfl
    | some t =>
      have hlen : 0 < t.length := List.length_pos_iff.2 (ne_nil_of_token? h)
      rw [scan_token h, List.flatMap_cons, flatMap_text_scan ((c :: rest).drop t.length)]
      obtain ⟨tail, htail⟩ := token?_isPrefix h
      simp [Piece.text, ← htail]
  termination_by s.length
  decreasing_by
    · simp
    · simp only [List.length_drop, List.length_cons]; omega

end StoredRoutines.Placeholder
