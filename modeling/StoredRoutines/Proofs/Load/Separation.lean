import StoredRoutines.Proofs.Load.Statements
import StoredRoutines.Proofs.Signature.Name

/-!
# Statements for other routines

The statements that the load of one routine sends neither drop nor call another one. Dropping and
calling take one line, on which the name stands, and the text that creates a routine takes more.

## Main definitions

- `InMemory.Concerns` — the statements that drop or call a routine

## Main results

- `Signature.isNameChar_of_find?` — the characters of the name that a text declares
- `Source.newline_mem_statement` — a source with directives is sent on several lines
- `InMemory.Sent.not_concerns` — the load of one routine does not concern another
-/

namespace StoredRoutines

namespace Signature

theorem isNameChar_of_find? {text : String} {signature : Signature}
    (h : find? text = some signature) : ∀ c ∈ signature.name.toList, isNameChar c = true :=
  (isRun_of_find? h).all

/-- A name that a text declares fits on a line. -/
theorem newline_notMem_name {text : String} {signature : Signature}
    (h : find? text = some signature) : '\n' ∉ signature.name.toList := by
  intro hmem
  exact absurd (isNameChar_of_find? h _ hmem) (by decide)

end Signature

namespace Source

/-- Directives stand above a line of their own. -/
theorem two_le_length_of_directives {lines : List String} {directives : Directives}
    (h : Directives.ofLines lines = .ok directives) : 2 ≤ lines.length := by
  unfold Directives.ofLines at h
  match lines with
  | [] => cases h
  | [line] =>
    rw [header?] at h
    by_cases hline : line = "begin"
    · rw [if_pos hline] at h
      cases h
    · rw [if_neg hline] at h
      cases h
  | _ :: _ :: rest => simp

theorem newline_mem_intercalate {ls : List (List Char)} (h : 2 ≤ ls.length) :
    '\n' ∈ List.intercalate ['\n'] ls := by
  match ls, h with
  | first :: next :: rest, _ =>
    rw [List.intercalate_cons_cons]
    simp

/-- A source that can be used is sent on several lines. -/
theorem newline_mem_statement {source : Source} {table : Placeholder.Table}
    {parsed : ParsedRoutine} (h : source.parse table = .ok parsed) :
    '\n' ∈ (source.statement parsed).toList := by
  obtain ⟨-, -, -, -, hdirectives⟩ := Loading.parse_eq_ok h
  have hlength := two_le_length_of_directives hdirectives
  unfold lines linesOf at hlength
  rw [statement, Placeholder.substitute, String.toList_ofList]
  apply newline_mem_intercalate
  simpa using hlength

end Source

namespace InMemory

open Database

/-- The statements that drop or call a routine. -/
def Concerns (n : String) (sql : String) : Prop :=
  (∃ kind, sql = dropStatement kind n) ∨ sql = callStatement n

theorem newline_notMem_of_concerns {n sql : String} (hn : '\n' ∉ n.toList)
    (h : Concerns n sql) : '\n' ∉ sql.toList := by
  rcases h with ⟨kind, rfl⟩ | rfl
  · unfold dropStatement
    cases kind <;> simpa [String.toList_append, RoutineKind.word] using hn
  · unfold callStatement
    simpa [String.toList_append] using hn

theorem toList_of_concerns {n sql : String} (h : Concerns n sql) :
    sql.toList = "drop procedure if exists ".toList ++ n.toList ∨
      sql.toList = "drop function if exists ".toList ++ n.toList ∨
      sql.toList = "call ".toList ++ (n.toList ++ "()".toList) := by
  rcases h with ⟨kind, rfl⟩ | rfl
  · unfold dropStatement
    cases kind
    · exact .inl (by simp [String.toList_append, RoutineKind.word])
    · exact .inr (.inl (by simp [String.toList_append, RoutineKind.word]))
  · unfold callStatement
    exact .inr (.inr (by simp [String.toList_append]))

theorem not_concerns_sqlMode (n mode : String) : ¬ Concerns n (sqlModeStatement mode) := by
  intro h
  unfold sqlModeStatement at h
  rcases toList_of_concerns h with h | h | h <;> simp [String.toList_append] at h

theorem not_concerns_sqlModeQuery (n : String) : ¬ Concerns n Loading.sqlModeQuery := by
  intro h
  unfold Loading.sqlModeQuery at h
  rcases toList_of_concerns h with h | h | h <;> simp at h

/-- The load of one routine does not drop or call another one, whose name fits on a line. -/
theorem Sent.not_concerns {name n : String} {texts : String → Prop} (hne : name ≠ n)
    (hn : '\n' ∉ n.toList) (htexts : ∀ text, texts text → '\n' ∈ text.toList) {sql : String}
    (h : Sent name texts sql) : ¬ Concerns n sql := by
  intro hconcerns
  -- a statement that concerns the other routine would have to be one of three texts
  have hshape := toList_of_concerns hconcerns
  have hchars : name.toList ≠ n.toList := fun h => hne (String.toList_inj.1 h)
  cases h with
  | create text h => exact newline_notMem_of_concerns hn hconcerns (htexts _ h)
  | sqlMode mode => exact not_concerns_sqlMode n mode hconcerns
  | characterSet characterSet collation =>
    unfold characterSetStatement at hshape
    rcases hshape with h | h | h <;> simp [String.toList_append] at h
  | drop kind =>
    unfold dropStatement at hshape
    cases kind <;> rcases hshape with h | h | h <;>
      simp [String.toList_append, RoutineKind.word, hchars] at h
  | call =>
    unfold callStatement at hshape
    rcases hshape with h | h | h <;> simp [String.toList_append, hchars] at h
  | describe table => rcases hshape with h | h | h <;> simp [String.toList_append] at h
  | dropTemporary table =>
    unfold dropTemporaryStatement at hshape
    rcases hshape with h | h | h <;> simp [String.toList_append] at h

end InMemory

end StoredRoutines
