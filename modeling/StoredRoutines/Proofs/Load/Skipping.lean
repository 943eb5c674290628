import StoredRoutines.Proofs.Placeholder.Fragment
import StoredRoutines.Proofs.Reload

/-!
# Skipping a load

The decision to skip a load covers everything that the text of a routine depends on but the place
its source is read from. A source that has been moved is skipped like one that has not.

## Main results

- `Loading.skipped_statement_eq_iff` — when the text of a skipped source is the loaded one
- `Loading.moved_source_skipped` — a source whose text is another one after it was moved
-/

namespace StoredRoutines.Loading

open Placeholder (Uses)

/-- If a routine has been loaded and there is no reason to load its text from another path of the
    same name, then the text can be used there as well, and what would be sent for it is what has
    been sent exactly if the paths agree as far as the text asks for them. -/
theorem skipped_statement_eq_iff {σ : Type} {db : Database σ} {p q : Path} {text : String}
    {mtime : Int64} {context : LoadContext} {s s' : Session σ} {record : RoutineRecord}
    (hload : routine db ⟨p, text, mtime⟩ context s = .ok record s') (hstem : q.stem = p.stem)
    {table : Placeholder.Table} {catalog : Option CatalogRoutine} {session : SessionSettings}
    (hskip : reloadReason? (some record) mtime table catalog session = none) :
    ∃ parsed, (⟨p, text, mtime⟩ : Source).parse context.table = .ok parsed ∧
      (⟨q, text, mtime⟩ : Source).parse table = .ok parsed ∧
      ((⟨p, text, mtime⟩ : Source).statement parsed =
          (⟨q, text, mtime⟩ : Source).statement parsed ↔
        (Uses text parsed.replace .file → p.text = q.text) ∧
          (Uses text parsed.replace .dir → p.directory = q.directory)) := by
  obtain ⟨parsed, d, hparse, -, hrecord, -⟩ := routine_eq_ok hload
  obtain ⟨_, entry, ⟨⟩, -, hsame, -, -⟩ := reloadReason?_eq_none_iff.1 hskip
  -- equal values of all tokens make the text mean the same under both tables
  have hvalues := (hrecord.changedPlaceholder?_eq_none_iff hparse).1 hsame
  have hparse' : (⟨q, text, mtime⟩ : Source).parse table = .ok parsed :=
    Source.parse_congr hparse rfl hstem hvalues
  refine ⟨parsed, hparse, hparse', ?_⟩
  exact Placeholder.substitute_eq_iff text parsed.replace ("'" ++ parsed.name ++ "'") p.text
    p.directory q.text q.directory

/-! ### A source that moves -/

/-- A source that asks for its own path. -/
def signpost (directory : String) : Source where
  path := ⟨directory ++ "/signpost.psql"⟩
  text := "create procedure signpost()\n-- type: none\nbegin\nselect __FILE__;\nend\n"
  mtime := 1000

/-- The session of the run. -/
def signpostSession : SessionSettings := ⟨"ANSI", "utf8mb4", "utf8mb4_bin"⟩

/-- The record of the source, wherever it lies. -/
def signpostRecord : RoutineRecord where
  name := "signpost"
  kind := .procedure
  designation := "none"
  returnType := none
  table := none
  parameters := []
  columns := none
  fields := none
  columnTypes := none
  timestamp := 1000
  replace := .empty
  doc := ⟨"", "", []⟩
  listParameters := []

/-- The signpost in the catalog after it has been loaded. -/
def signpostEntry : CatalogRoutine := ⟨"signpost", .procedure, signpostSession, []⟩

/-- The signpost is loaded from its old place. -/
theorem signpost_loaded : answer? (routine inMemory (signpost "/old")
    ⟨.empty, signpostSession, none⟩ ⟨.empty, []⟩) = some signpostRecord := by
  decide +kernel

/-- At the new place nothing asks for a load of the signpost. -/
theorem signpost_skipped : reloadReason? (some signpostRecord) 1000 .empty (some signpostEntry)
    signpostSession = none := by
  decide +kernel

/-- The conditions can be met: the source is loaded, and skipped when it has been moved. -/
theorem skipped_statement_signpost :
    ∃ parsed, (signpost "/old").parse .empty = .ok parsed ∧
      (signpost "/new").parse .empty = .ok parsed ∧
      ((signpost "/old").statement parsed = (signpost "/new").statement parsed ↔
        (Uses (signpost "/old").text parsed.replace .file →
          (signpost "/old").path.text = (signpost "/new").path.text) ∧
        (Uses (signpost "/old").text parsed.replace .dir →
          (signpost "/old").path.directory = (signpost "/new").path.directory)) := by
  obtain ⟨s, hs⟩ := ok_of_answer? signpost_loaded
  exact skipped_statement_eq_iff hs (q := (signpost "/new").path) (by decide +kernel)
    signpost_skipped

/-- A source that has been loaded and is moved is skipped, although its text would be another
    one. -/
theorem moved_source_skipped :
    (∃ s, routine inMemory (signpost "/old") ⟨.empty, signpostSession, none⟩ ⟨.empty, []⟩ =
      .ok signpostRecord s) ∧
    (signpost "/new").path.stem = (signpost "/old").path.stem ∧
    (signpost "/new").text = (signpost "/old").text ∧
    reloadReason? (some signpostRecord) (signpost "/new").mtime .empty (some signpostEntry)
      signpostSession = none ∧
    ((signpost "/old").sent? .empty).isSome ∧ ((signpost "/new").sent? .empty).isSome ∧
    (signpost "/new").sent? .empty ≠ (signpost "/old").sent? .empty := by
  refine ⟨ok_of_answer? signpost_loaded, ?_, rfl, signpost_skipped, ?_, ?_, ?_⟩ <;>
    decide +kernel

end StoredRoutines.Loading
