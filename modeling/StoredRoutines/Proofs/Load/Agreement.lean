import StoredRoutines.Proofs.Batch.Preparation
import StoredRoutines.Proofs.Reload

/-!
# What is recorded and what is installed

A record takes the name and the kind of its routine from the text as it is written. The database
takes them from the text with its placeholders replaced. A load that succeeds has installed what
its record says exactly if both texts declare the same routine.

## Main results

- `InMemory.get?_created_erase` — the routine that a text leaves in a place that was cleared for it
- `Loading.routine_of_ok` — the routine under the recorded name after a load
- `Loading.recorded_installed_iff` — when a record describes what has been installed
- `Loading.refund_installs_another` — a source whose placeholder changes the name
-/

namespace StoredRoutines

/-- In a place that was cleared, a text leaves the routine that it declares for this place. -/
theorem InMemory.get?_created_erase {routines : SortedMap StoredRoutine} {n text : String}
    {settings : SessionSettings} {e : StoredRoutine} :
    (created (routines.erase n) text settings).get? n = some e ↔
      ∃ kind, Signature.find? text = some ⟨kind, n⟩ ∧ e = ⟨kind, text, settings⟩ := by
  unfold created
  cases hfind : Signature.find? text with
  | none =>
    constructor
    · intro h
      rw [SortedMap.get?_erase, if_pos rfl] at h
      cases h
    · rintro ⟨kind, h, -⟩
      cases h
  | some signature =>
    obtain ⟨kind, name⟩ := signature
    simp only [SortedMap.get?_insert]
    -- a text that declares another routine leaves the place free
    by_cases hname : n = name
    · subst hname
      rw [if_pos rfl, Option.some.injEq]
      constructor
      · rintro rfl
        exact ⟨kind, rfl, rfl⟩
      · rintro ⟨_, ⟨⟩, rfl⟩
        rfl
    · rw [if_neg hname, SortedMap.get?_erase, if_pos rfl]
      constructor
      · intro h
        cases h
      · rintro ⟨_, ⟨⟩, -⟩
        exact absurd rfl hname

namespace Loading

/-- The session settings that are read back are in the words of the database. -/
theorem canonicalIn_of_canonicalSession {configured session : SessionSettings}
    {s t : Session InMemory} (h : canonicalSession inMemory configured s = .ok session t) :
    session.CanonicalIn t.database := by
  obtain ⟨-, hmode⟩ := Prod.mk.inj ((Run.canonicalSession_kept configured).of_ok h)
  rw [canonicalSession_eq_ok h, SessionSettings.CanonicalIn, hmode]
  cases s.database.canonicalSqlMode with
  | none => rfl
  | some mode => rfl

section

variable {source : Source} {context : LoadContext} {s s' : Session InMemory}
  {record : RoutineRecord}

/-- After a load the database holds under the recorded name what the statement of the source
    declares under it. The questions to the catalog that follow do not change it. -/
theorem routine_of_ok (hcatalog : context.catalog = s.database.catalogEntry source.routineName)
    (hsession : context.session.CanonicalIn s.database)
    (h : routine inMemory source context s = .ok record s') :
    ∃ parsed, source.parse context.table = .ok parsed ∧ RecordOf source parsed record ∧
      Signature.find? source.text = some ⟨record.kind, record.name⟩ ∧
      ∀ e, s'.database.routines.get? record.name = some e ↔
        ∃ kind, Signature.find? (source.statement parsed) = some ⟨kind, record.name⟩ ∧
          e = ⟨kind, source.statement parsed, context.session⟩ := by
  obtain ⟨parsed, d, hparse, hinstalls, hrecord, notices, r, hr⟩ := routine_eq_ok h
  obtain ⟨hname, -, hfind, hsignature, -⟩ := parse_eq_ok hparse
  have hsame : record.name = parsed.name := by rw [hrecord.name, hsignature, hname]
  rw [← hname] at hcatalog
  obtain ⟨-, hroutines⟩ := hinstalls.routines hcatalog hsession
  have hkept : s'.database.routines = d.routines :=
    congrArg Prod.fst ((reconcile_within (asks_kept parsed.name)).of_ok hr)
  refine ⟨parsed, hparse, hrecord, ?_, fun e => ?_⟩
  · rw [hfind, hrecord.kind, hrecord.name]
  · rw [hkept, hroutines, hsame]
    exact InMemory.get?_created_erase

/-- Under the table of the load, nothing but the database gives a reason to load a routine
    again. -/
theorem RecordOf.reloadReason?_eq {parsed : ParsedRoutine} (h : RecordOf source parsed record)
    (hparse : source.parse context.table = .ok parsed) {e : Option StoredRoutine}
    (he : s'.database.routines.get? record.name = e)
    (hsettings : ∀ r, e = some r → r.settings = context.session) :
    reloadReason? (some record) source.mtime context.table
        (s'.database.catalogEntry record.name) context.session =
      if e.isSome then none else some .notInCatalog := by
  have hsame := (h.changedPlaceholder?_eq_none_iff hparse).2 fun _ _ => rfl
  unfold reloadReason? InMemory.catalogEntry
  rw [he]
  simp only [h.timestamp, hsame, ne_eq, not_true_eq_false, if_false]
  cases e with
  | none => rfl
  | some r =>
    refine changedSetting?_eq_none_iff.2 ?_
    exact hsettings r rfl

end

/-- A load that succeeds, under settings that have been read back and with the catalog entry that
    the database gives, has a record that names the routine of the text as it is written. Under
    this name the database holds the routine of the text that was sent, with its text and the
    settings of the session, and then there is no reason to load it again; if the text that was
    sent declares another name, the database does not hold the routine. The record describes what
    has been installed exactly if replacing the placeholders has not changed the declaration. -/
theorem recorded_installed_iff {source : Source} {table : Placeholder.Table}
    {configured session : SessionSettings} {catalog : Option CatalogRoutine}
    {s t u : Session InMemory} {record : RoutineRecord}
    (hsession : canonicalSession inMemory configured s = .ok session t)
    (hcatalog : (inMemory.routineInfo source.routineName t.database).1 = .ok catalog)
    (hload : routine inMemory source ⟨table, session, catalog⟩ t = .ok record u) :
    ∃ parsed, source.parse table = .ok parsed ∧
      Signature.find? source.text = some ⟨record.kind, record.name⟩ ∧
      (u.database.routines.get? record.name =
            some ⟨record.kind, source.statement parsed, session⟩ ∧
          reloadReason? (some record) source.mtime table (u.database.catalogEntry record.name)
            session = none ↔
        Signature.find? (source.statement parsed) = Signature.find? source.text) ∧
      (∀ kind, Signature.find? (source.statement parsed) = some ⟨kind, record.name⟩ →
        u.database.routines.get? record.name = some ⟨kind, source.statement parsed, session⟩ ∧
          reloadReason? (some record) source.mtime table (u.database.catalogEntry record.name)
            session = none) ∧
      ((∀ kind, Signature.find? (source.statement parsed) ≠ some ⟨kind, record.name⟩) →
        u.database.routines.get? record.name = none ∧
          reloadReason? (some record) source.mtime table (u.database.catalogEntry record.name)
            session = some .notInCatalog) := by
  obtain ⟨parsed, hparse, hrecord, hfind, hget⟩ :=
    routine_of_ok (Except.ok.inj hcatalog).symm (canonicalIn_of_canonicalSession hsession) hload
  have hdeclared : ∀ kind, Signature.find? (source.statement parsed) = some ⟨kind, record.name⟩ →
      u.database.routines.get? record.name = some ⟨kind, source.statement parsed, session⟩ ∧
        reloadReason? (some record) source.mtime table (u.database.catalogEntry record.name)
          session = none := by
    intro kind hkind
    have he := (hget _).2 ⟨kind, hkind, rfl⟩
    refine ⟨he, (hrecord.reloadReason?_eq hparse he ?_).trans rfl⟩
    rintro _ ⟨⟩
    rfl
  refine ⟨parsed, hparse, hfind, ⟨?_, fun hsame => ?_⟩, hdeclared, fun hnone => ?_⟩
  -- the routine that is there was declared by the text that was sent
  · rintro ⟨he, -⟩
    obtain ⟨kind, hkind, heq⟩ := (hget _).1 he
    have hsame : record.kind = kind := congrArg StoredRoutine.kind heq
    rw [hkind, hfind, hsame]
  · exact hdeclared _ (hsame.trans hfind)
  · have he : u.database.routines.get? record.name = none := by
      refine Option.eq_none_iff_forall_ne_some.2 fun e he => ?_
      obtain ⟨kind, hkind, -⟩ := (hget e).1 he
      exact hnone kind hkind
    refine ⟨he, (hrecord.reloadReason?_eq hparse he ?_).trans rfl⟩
    rintro _ ⟨⟩

/-! ### A placeholder in the name -/

/-- A source that leaves the end of the name open. -/
def refund : Source where
  path := ⟨"/psql/refund.psql"⟩
  text := "create procedure refund@SUFFIX@()\n-- type: none\nbegin\nend\n"
  mtime := 1000

/-- The placeholders, given the end of the name. -/
def refundTable (suffix : String) : Placeholder.Table := .ofList [("@SUFFIX@", suffix)]

/-- A database with a function of the name, which has words of its own for the SQL mode. -/
def refundDatabase : InMemory :=
  { InMemory.empty with
    canonicalSqlMode := some "REAL_AS_FLOAT"
    routines := .ofList [("refund", ⟨.function, "", ⟨"", "", ""⟩⟩)] }

/-- The settings that the loader asks for, in the words of the database. -/
def refundSession : SessionSettings := ⟨"REAL_AS_FLOAT", "utf8mb4", "utf8mb4_bin"⟩

/-- The session after the database has been asked for its words. -/
def refundStart : Session InMemory :=
  sessionOf (canonicalSession inMemory ⟨"ANSI", "utf8mb4", "utf8mb4_bin"⟩ ⟨refundDatabase, []⟩)

/-- What a load of the source knows of the run and of the catalog. -/
def refundContext (suffix : String) : LoadContext :=
  ⟨refundTable suffix, refundSession, refundDatabase.catalogEntry "refund"⟩

/-- The record that a load of the source makes. -/
def refundRecord (suffix : String) : RoutineRecord where
  name := "refund"
  kind := .procedure
  designation := "none"
  returnType := none
  table := none
  parameters := []
  columns := none
  fields := none
  columnTypes := none
  timestamp := 1000
  replace := .ofList [("@SUFFIX@", suffix)]
  doc := ⟨"", "", []⟩
  listParameters := []

/-- The session of the refund as the database words it. -/
theorem refund_session :
    canonicalSession inMemory ⟨"ANSI", "utf8mb4", "utf8mb4_bin"⟩ ⟨refundDatabase, []⟩ =
      .ok refundSession refundStart :=
  eq_ok_of_answer? (by decide +kernel)

/-- The conditions can be met, and the declaration kept. -/
theorem recorded_installed_refund :
    ∃ u, routine inMemory refund (refundContext "") refundStart = .ok (refundRecord "") u ∧
      u.database.routines.get? "refund" = some ⟨.procedure,
        "create procedure refund()\n-- type: none\nbegin\nend\n", refundSession⟩ ∧
      reloadReason? (some (refundRecord "")) 1000 (refundTable "")
        (u.database.catalogEntry "refund") refundSession = none := by
  have hload : routine inMemory refund (refundContext "") refundStart = .ok (refundRecord "") _ :=
    eq_ok_of_answer? (by decide +kernel)
  have hcatalog : (inMemory.routineInfo refund.routineName refundStart.database).1 =
      .ok (refundDatabase.catalogEntry "refund") := by decide +kernel
  obtain ⟨parsed, hparse, -, hiff, -⟩ := recorded_installed_iff refund_session hcatalog hload
  have hsent : refund.sent? (refundTable "") =
      some "create procedure refund()\n-- type: none\nbegin\nend\n" := by decide +kernel
  rw [Source.sent?, hparse] at hsent
  have hstatement := Option.some.inj hsent
  rw [hstatement] at hiff
  exact ⟨_, hload, hiff.2 (by decide +kernel)⟩

/-- A load that succeeds although its record names a routine that the database does not hold: the
    name that was sent has got an end. The next reload decision finds the routine missing, and
    loading it again fails, since the routine that was created is in the way. -/
theorem refund_installs_another :
    routine inMemory refund (refundContext "_v2") refundStart = .ok (refundRecord "_v2")
        (sessionOf (routine inMemory refund (refundContext "_v2") refundStart)) ∧
      (databaseOf (routine inMemory refund (refundContext "_v2") refundStart)).routines.get?
        "refund" = none ∧
      (databaseOf (routine inMemory refund (refundContext "_v2") refundStart)).routines.get?
        "refund_v2" = some ⟨.procedure,
          "create procedure refund_v2()\n-- type: none\nbegin\nend\n", refundSession⟩ ∧
      reloadReason? (some (refundRecord "_v2")) 1000 (refundTable "_v2")
        ((databaseOf (routine inMemory refund (refundContext "_v2") refundStart)).catalogEntry
          "refund") refundSession = some .notInCatalog ∧
      refused? (routine inMemory refund ⟨refundTable "_v2", refundSession, none⟩
        (sessionOf (routine inMemory refund (refundContext "_v2") refundStart))) =
          some (.loadFailed "refund" (.routineExists .procedure "refund_v2")) := by
  refine ⟨eq_ok_of_answer? ?_, ?_⟩ <;> decide +kernel

end Loading

end StoredRoutines
