import Mathlib.Data.List.Forall2
import StoredRoutines.Proofs.Directive.Grammar

/-!
# Lists of columns

The designations with columns take them from the arguments of the type directive. A bulk insert
admits no characters but those of words and the comma; the others take whatever stands between the
commas.

## Main definitions

- `DirectiveLine.Designates` — the form of a type directive
- `Designation.Nearest` — the type directive that counts
- `Designation.Lists` — the arguments that a designation with columns is written with

## Main results

- `Designation.ofHeader_columns` — what holds of the columns that are accepted, and which arguments
  are refused
-/

namespace StoredRoutines

open Text (IsRun Ends Padded)

namespace DirectiveLine

/-! ### Type directives -/

/-- A type directive: behind `-- type:` the word `kind`, and on the rest of the line `arguments`,
    white space at their end included. Nothing but white space follows below. -/
inductive Designates (line : String) : String → String → Prop
  | directive {kind arguments : String} {lead gap tail : List Char}
      (hline : Announces "type" line.toList
        (lead ++ (kind.toList ++ (gap ++ (arguments.toList ++ tail)))))
      (hlead : lead.all Text.isBlank = true) (hkind : IsRun Text.isWord kind)
      (hend : ∀ c ∈ (gap ++ (arguments.toList ++ tail)).head?, Text.isWord c = false)
      (hgap : gap.all Text.isBlank = true)
      (hhead : ∀ c ∈ arguments.toList.head?, Text.isBlank c = false)
      (hbreak : '\n' ∉ arguments.toList) (htail : tail.all Text.isBlank = true)
      (hstop : ∀ c ∈ tail.head?, c = '\n') : Designates line kind arguments

variable {line kind arguments : String}

/-- A word is the longest run of word characters at the start. -/
theorem word?_eq_some_iff {s word rest : List Char} :
    word? s = some (word, rest) ↔ s = word ++ rest ∧ IsRun Text.isWord (String.ofList word) ∧
      ∀ c ∈ rest.head?, Text.isWord c = false := by
  constructor
  · intro h
    rw [word?] at h
    split at h
    · cases h
    next hne =>
    obtain ⟨rfl, rfl⟩ := Prod.mk.inj (Option.some.inj h)
    exact ⟨List.takeWhile_append_dropWhile.symm, Text.isRun_takeWhile hne,
      Text.head_dropWhile Text.isWord s⟩
  · rintro ⟨rfl, hword, hrest⟩
    have happend := word?_append hword rest hrest
    rwa [String.toList_ofList] at happend

/-- A line that is read as a designation has the form of one. -/
theorem designates_of_designation? {raw : Option String}
    (h : designation? line = some (kind, raw)) : Designates line kind (raw.getD "") := by
  simp only [designation?, Option.bind_eq_bind, Option.bind_eq_some_iff] at h
  obtain ⟨text, htext, ⟨word, rest⟩, hword, h⟩ := h
  obtain ⟨hjoin, hrun, hend⟩ := word?_eq_some_iff.1 hword
  obtain ⟨lead, hlead, hsplit⟩ := Text.exists_trimStart text
  obtain ⟨gap, hgap, hrest⟩ := Text.exists_trimStart rest
  have hline := announces_of_afterComment? (by decide) htext
  have hfirst := Text.head_trimStart rest
  rw [hsplit, hjoin] at hline
  simp only at h
  -- what remains is the line from the first character of the arguments on
  generalize Text.trimStart rest = t at h hrest hfirst
  subst hrest
  rw [← String.toList_ofList (l := word)] at hline
  split at h
  next hempty =>
    obtain rfl := List.isEmpty_iff.1 hempty
    cases h
    have hnone : ∀ {p : Char → Prop}, ∀ c ∈ ([] : List Char).head?, p c := by
      rintro p c ⟨⟩
    exact @Designates.directive line _ "" _ _ [] hline hlead hrun hend hgap hnone
      List.not_mem_nil rfl hnone
  next hfull =>
    split at h
    next hblank =>
      cases h
      have hcut : t =
          (String.ofList (t.takeWhile (· != '\n'))).toList ++ t.dropWhile (· != '\n') := by
        rw [String.toList_ofList, List.takeWhile_append_dropWhile]
      rw [hcut] at hline hend
      refine .directive hline hlead hrun hend hgap ?_ ?_ hblank ?_
      · intro c hc
        apply hfirst
        rw [hcut]
        exact List.mem_head?_append_of_mem_head? hc
      · intro hmem
        rw [Option.getD_some, String.toList_ofList] at hmem
        have hkept := List.all_eq_true.1 List.all_takeWhile _ hmem
        simp at hkept
      · intro c hc
        simpa using Text.head_dropWhile (· != '\n') t c hc
    · cases h

/-- A line that has the form of a designation is read as one. -/
theorem designation?_of_designates (h : Designates line kind arguments) :
    ∃ raw, designation? line = some (kind, raw) ∧ raw.getD "" = arguments := by
  obtain @⟨lead, gap, tail, hline, hlead, hkind, hend, hgap, hhead, hbreak, htail, hstop⟩ := h
  have htext := afterComment?_of_announces (by decide) hline
  have hstart : Text.trimStart (lead ++ (kind.toList ++ (gap ++ (arguments.toList ++ tail)))) =
      kind.toList ++ (gap ++ (arguments.toList ++ tail)) := by
    apply Text.trimStart_append hlead
    intro c hc
    exact isBlank_of_isWord (hkind.head_append _ c hc)
  have hword := word?_append hkind _ hend
  simp only [designation?, htext, hstart, hword, Option.bind_eq_bind, Option.bind_some,
    String.ofList_toList]
  -- without arguments only white space is left behind the kind
  by_cases hempty : arguments = ""
  · subst hempty
    have hrest : Text.trimStart (gap ++ tail) = [] := by
      rw [Text.trimStart_eq_nil_iff, List.all_append, hgap, htail]
      rfl
    refine ⟨none, ?_, rfl⟩
    change (if (Text.trimStart (gap ++ tail)).isEmpty then _ else _) = _
    rw [hrest]
    rfl
  · have hne : arguments.toList ≠ [] := by
      rw [Ne, String.toList_eq_nil_iff]
      exact hempty
    have hrest : Text.trimStart (gap ++ (arguments.toList ++ tail)) = arguments.toList ++ tail := by
      apply Text.trimStart_append hgap
      intro c hc
      rw [List.head?_append_of_ne_nil _ hne] at hc
      exact hhead c hc
    have hkept : ∀ c ∈ arguments.toList, (c != '\n') = true := by
      intro c hc
      exact bne_iff_ne.2 fun heq => hbreak (heq ▸ hc)
    -- the arguments end where the line ends, and what is left is white space
    obtain ⟨htake, hdrop⟩ := Text.span_append hkept tail (by
      intro c hc
      simpa using hstop c hc)
    have hfull : (arguments.toList ++ tail).isEmpty = false := by simp [hne]
    refine ⟨some arguments, ?_, rfl⟩
    simp only [hrest, hfull, htake, hdrop, htail, Bool.false_eq_true, if_false, if_true,
      String.ofList_toList]

/-! ### The arguments of a bulk insert -/

theorem isIdentifierChar_of_isListChar {c : Char} (h : (isIdentifierChar c || c == ',') = true)
    (hc : c ≠ ',') : isIdentifierChar c = true := by
  rcases Bool.or_eq_true_iff.1 h with h | h
  · exact h
  · exact absurd (beq_iff_eq.1 h) hc

theorem isBlank_of_isListChar {c : Char} (h : (isIdentifierChar c || c == ',') = true) :
    Text.isBlank c = false :=
  Text.isBlank_eq_false (p := fun c => isIdentifierChar c || c == ',') (by decide +kernel) h

theorem bulkInsertArguments?_append {table columns : String} {gap : List Char}
    (htable : IsRun isIdentifierChar table)
    (hcolumns : IsRun (fun c => isIdentifierChar c || c == ',') columns) (hne : gap ≠ [])
    (hgap : gap.all Text.isBlank = true)
    (hsplit : arguments.toList = table.toList ++ (gap ++ columns.toList)) :
    bulkInsertArguments? arguments = some (table, columns) := by
  have hblank : ∀ c ∈ (gap ++ columns.toList).head?, Text.isBlank c = true := by
    intro c hc
    rw [List.head?_append_of_ne_nil _ hne] at hc
    exact List.all_eq_true.1 hgap c (List.mem_of_mem_head? hc)
  -- the identifier ends where the gap begins
  have hstop : ∀ c ∈ (gap ++ columns.toList).head?, isIdentifierChar c = false := by
    intro c hc
    by_contra hidentifier
    have hnot := isBlank_of_isIdentifierChar (by simpa using hidentifier)
    rw [hblank c hc] at hnot
    cases hnot
  have hcolumnsHead : ∀ c ∈ columns.toList.head?, Text.isBlank c = false := by
    intro c hc
    exact isBlank_of_isListChar (hcolumns.all c (List.mem_of_mem_head? hc))
  have hlist : Text.afterBlanks? (gap ++ columns.toList) = some columns.toList := by
    rw [Text.afterBlanks?_eq_some_iff, Text.trimStart_append hgap hcolumnsHead]
    exact ⟨by simp [hne], hblank, rfl⟩
  obtain ⟨htake, hdrop⟩ := Text.span_append htable.all _ hstop
  have htableFull : table.toList.isEmpty = false := by simpa using htable.ne_empty
  have hcolumnsFull : columns.toList.isEmpty = false := by simpa using hcolumns.ne_empty
  have hall := List.all_eq_true.2 hcolumns.all
  simp only [bulkInsertArguments?, hsplit, htake, hdrop, htableFull, hlist, hcolumnsFull, hall,
    Option.bind_eq_bind, Option.bind_some, Bool.false_eq_true, if_false, Bool.not_false,
    Bool.and_self, if_true, String.ofList_toList]

/-- Arguments of a bulk insert are an identifier, a gap and a list of identifier characters and
    commas. -/
theorem bulkInsertArguments?_eq_some_iff {table columns : String} :
    bulkInsertArguments? arguments = some (table, columns) ↔
      IsRun isIdentifierChar table ∧ IsRun (fun c => isIdentifierChar c || c == ',') columns ∧
        ∃ gap, gap ≠ [] ∧ gap.all Text.isBlank = true ∧
          arguments.toList = table.toList ++ (gap ++ columns.toList) := by
  constructor
  · intro h
    simp only [bulkInsertArguments?] at h
    split at h
    · cases h
    next hne =>
    simp only [Option.bind_eq_bind, Option.bind_eq_some_iff] at h
    obtain ⟨list, hlist, h⟩ := h
    split at h
    next hcolumns =>
      obtain ⟨rfl, rfl⟩ := Prod.mk.inj (Option.some.inj h)
      obtain ⟨hfull, hall⟩ := Bool.and_eq_true_iff.1 hcolumns
      obtain ⟨hrest, hends, hlist⟩ := Text.afterBlanks?_eq_some_iff.1 hlist
      obtain ⟨gap, hgap, hsplit⟩ :=
        Text.exists_trimStart (arguments.toList.dropWhile isIdentifierChar)
      rw [← hlist] at hsplit
      refine ⟨Text.isRun_takeWhile hne, ⟨by simpa using hfull, ?_⟩, gap, ?_, hgap, ?_⟩
      · rw [String.toList_ofList]
        exact List.all_eq_true.1 hall
      · -- something stands between the words, since a blank follows the first
        rintro rfl
        obtain ⟨c, rest, hcons⟩ := List.exists_cons_of_ne_nil hrest
        rw [List.nil_append] at hsplit
        rw [hcons] at hsplit hends
        have hlisted := List.all_eq_true.1 hall c (hsplit ▸ List.mem_cons_self)
        have hblank := hends c rfl
        rw [isBlank_of_isListChar hlisted] at hblank
        cases hblank
      · rw [String.toList_ofList, String.toList_ofList, ← hsplit,
          List.takeWhile_append_dropWhile]
    · cases h
  · rintro ⟨htable, hcolumns, gap, hne, hgap, hsplit⟩
    exact bulkInsertArguments?_append htable hcolumns hne hgap hsplit

end DirectiveLine

section

/-! ### Names between commas -/

open DirectiveLine

variable {list : String} {columns : List String}

/-- The names of a list are what stands between its commas, without the white space around it. -/
theorem splitColumns_eq_iff : splitColumns list = columns ↔
    List.Forall₂ Padded (columns.map String.toList) (list.toList.splitOn ',') := by
  have hpadded : List.Forall₂ Padded (columns.map String.toList) (list.toList.splitOn ',') ↔
      columns.map String.toList = (list.toList.splitOn ',').map Text.trim := by
    rw [← List.forall₂_eq_eq_eq, List.forall₂_map_right_iff]
    have hrel : Padded = fun name piece => name = Text.trim piece := by
      funext name piece
      exact propext (Text.padded_iff.trans eq_comm)
    rw [hrel]
  rw [hpadded, splitColumns, Text.splitOn_eq, eq_comm]
  constructor
  · rintro rfl
    rw [List.map_map]
    exact List.map_congr_left fun piece _ => String.toList_ofList
  · intro h
    have hnames := congrArg (List.map String.ofList) h
    rw [List.map_map, List.map_map] at hnames
    rw [← Function.comp_def, ← hnames]
    have hid : String.ofList ∘ String.toList = id := funext fun _ => String.ofList_toList
    rw [hid, List.map_id]

theorem splitColumns_trim (list : String) :
    splitColumns (String.ofList (Text.trim list.toList)) = splitColumns list := by
  have hcomma : Text.isBlank ',' = false := by decide
  have hpieces := Text.map_trim_splitOn_trim hcomma list.toList
  have hnames := congrArg (List.map String.ofList) hpieces
  rw [List.map_map, List.map_map] at hnames
  rw [splitColumns, String.toList_ofList]
  exact hnames

theorem map_toList_splitColumns (h : ∀ c ∈ list.toList, Text.isBlank c = false) :
    (splitColumns list).map String.toList = Text.splitOn ',' list.toList := by
  rw [splitColumns, List.map_map]
  refine (List.map_congr_left fun piece hpiece => ?_).trans (List.map_id _)
  have hsolid : Text.trim piece = piece := by
    apply Text.trim_eq_self_of_solid
    intro c hc
    exact h c (Text.mem_of_mem_splitOn hpiece hc)
  rw [Function.comp_apply, hsolid, String.toList_ofList]
  rfl

/-- Commas join the names again if there is no white space between them. -/
theorem joined_splitColumns (h : ∀ c ∈ list.toList, Text.isBlank c = false) :
    ",".intercalate (splitColumns list) = list := by
  apply String.toList_inj.1
  rw [toList_joined, map_toList_splitColumns h]
  exact Text.intercalate_splitOn ',' list.toList

theorem splitColumns_identifiers (hne : columns ≠ [])
    (h : ∀ c ∈ columns, ∀ x ∈ c.toList, isIdentifierChar x = true) :
    splitColumns (",".intercalate columns) = columns := by
  have hcomma : ∀ piece ∈ columns.map String.toList, ',' ∉ piece := by
    rw [List.forall_mem_map]
    intro c hc hmem
    exact absurd (h c hc _ hmem) (by decide)
  have hsolid : ∀ c ∈ columns, Text.trim c.toList = c.toList := by
    intro c hc
    apply Text.trim_eq_self_of_solid
    intro x hx
    exact isBlank_of_isIdentifierChar (h c hc x hx)
  rw [splitColumns, toList_joined, Text.splitOn_eq,
    List.splitOn_intercalate ',' hcomma (by simpa using hne), List.map_map]
  refine (List.map_congr_left fun c hc => ?_).trans (List.map_id _)
  rw [Function.comp_apply, hsolid c hc, String.ofList_toList]
  rfl

end

namespace Designation

open DirectiveLine

/-- The arguments that a designation with columns is written with: for a bulk insert a table, white
    space and words joined by single commas, for the others names with white space around them. -/
inductive Lists (arguments : String) : Designation → Prop
  | bulkInsert {table : String} {columns : List String} {gap : List Char}
      (htable : IsRun isIdentifierChar table) (hgap : gap.all Text.isBlank = true)
      (hne : gap ≠ [])
      (hcolumns : ∀ c ∈ columns, ∀ x ∈ c.toList, isIdentifierChar x = true)
      (hlist : ",".intercalate columns ≠ "")
      (h : arguments.toList = table.toList ++ (gap ++ (",".intercalate columns).toList)) :
      Lists arguments (.bulkInsert table columns)
  | rowsWithKey {columns : List String}
      (h : List.Forall₂ Padded (columns.map String.toList) (arguments.toList.splitOn ',')) :
      Lists arguments (.rowsWithKey columns)
  | rowsWithIndex {columns : List String}
      (h : List.Forall₂ Padded (columns.map String.toList) (arguments.toList.splitOn ',')) :
      Lists arguments (.rowsWithIndex columns)

variable {header : List String} {arguments table : String} {columns : List String}

/-- A list of a bulk insert is what is read from its arguments. -/
theorem lists_bulkInsert_iff : Lists arguments (.bulkInsert table columns) ↔
    ∃ list, bulkInsertArguments? arguments = some (table, list) ∧
      splitColumns list = columns := by
  constructor
  · rintro (⟨htable, hgap, hne, hcolumns, hlist, h⟩)
    have hnames : columns ≠ [] := by
      rintro rfl
      exact hlist rfl
    refine ⟨",".intercalate columns, ?_, splitColumns_identifiers hnames hcolumns⟩
    -- joined identifiers are a run of identifier characters and commas
    refine bulkInsertArguments?_eq_some_iff.2 ⟨htable, ⟨hlist, ?_⟩, _, hne, hgap, h⟩
    intro c hc
    rw [toList_joined] at hc
    rcases Text.mem_intercalate hc with rfl | ⟨_, hpiece, hc⟩
    · rfl
    · obtain ⟨name, hname, rfl⟩ := List.mem_map.1 hpiece
      rw [hcolumns name hname c hc]
      rfl
  · rintro ⟨list, hlist, rfl⟩
    obtain ⟨htable, hrun, gap, hne, hgap, h⟩ := bulkInsertArguments?_eq_some_iff.1 hlist
    have hsolid : ∀ c ∈ list.toList, Text.isBlank c = false := by
      intro c hc
      exact isBlank_of_isListChar (hrun.all c hc)
    -- without blanks the columns joined again are the list itself
    have hjoined := joined_splitColumns hsolid
    refine .bulkInsert htable hgap hne ?_ ?_ ?_
    · intro c hc x hx
      have hpiece := List.mem_map_of_mem (f := String.toList) hc
      rw [map_toList_splitColumns hsolid] at hpiece
      apply isIdentifierChar_of_isListChar (hrun.all x (Text.mem_of_mem_splitOn hpiece hx))
      rintro rfl
      exact Text.sep_notMem_of_mem_splitOn hpiece hx
    · rw [hjoined]
      exact hrun.ne_empty
    · rw [hjoined]
      exact h

/-! ### Headers -/

/-- The type directive nearest to the end of a header. -/
inductive Nearest (header : List String) (kind arguments : String) : Prop
  | directive {above : List String} {line : String} {below : List String}
      (hheader : header = above ++ line :: below) (hline : Designates line kind arguments)
      (hbelow : ∀ l ∈ below, ∀ k a, ¬ Designates l k a) : Nearest header kind arguments

theorem designation?_eq_none_iff {line : String} :
    designation? line = none ↔ ∀ k a, ¬ Designates line k a := by
  constructor
  · intro hnone k a h
    obtain ⟨raw, hsome, -⟩ := designation?_of_designates h
    rw [hnone] at hsome
    cases hsome
  · intro h
    rw [Option.eq_none_iff_forall_not_mem]
    rintro ⟨kind, raw⟩ hsome
    exact h _ _ (designates_of_designation? hsome)

/-- The nearest designation is the first one that is found from below. -/
theorem nearest_iff {kind : String} : Nearest header kind arguments ↔
    ∃ raw, header.reverse.findSome? designation? = some (kind, raw) ∧
      raw.getD "" = arguments := by
  constructor
  · rintro @⟨above, line, below, rfl, hline, hbelow⟩
    obtain ⟨raw, hraw, harguments⟩ := designation?_of_designates hline
    have hreverse : (above ++ line :: below).reverse = below.reverse ++ line :: above.reverse := by
      simp
    refine ⟨raw, List.findSome?_eq_some_iff.2 ⟨_, line, _, hreverse, hraw, ?_⟩, harguments⟩
    intro l hl
    exact designation?_eq_none_iff.2 (hbelow l (List.mem_reverse.1 hl))
  · rintro ⟨raw, hfind, rfl⟩
    obtain ⟨below, line, above, hsplit, hraw, hnone⟩ := List.findSome?_eq_some_iff.1 hfind
    have hheader : header = above.reverse ++ line :: below.reverse := by
      rw [← List.reverse_reverse header, hsplit]
      simp
    refine .directive hheader (designates_of_designation? hraw) ?_
    intro l hl
    exact designation?_eq_none_iff.1 (hnone l (List.mem_reverse.1 hl))

theorem ofHeader_of_nearest {kind : String} (h : Nearest header kind arguments) :
    ofHeader header = ofArguments kind (some arguments) := by
  obtain ⟨raw, hfind, rfl⟩ := nearest_iff.1 h
  rw [ofHeader, hfind]
  rfl

theorem nearest_of_ofHeader {d : Designation} (h : ofHeader header = .ok d) :
    ∃ kind arguments, Nearest header kind arguments := by
  rw [ofHeader] at h
  split at h
  next kind raw hfind => exact ⟨kind, raw.getD "", nearest_iff.2 ⟨raw, hfind, rfl⟩⟩
  next => cases h

theorem ofArguments_bulkInsert : ofArguments "bulk_insert" (some arguments) =
    match bulkInsertArguments? arguments with
    | some (table, list) => .ok (.bulkInsert table (splitColumns list))
    | none => .error (.malformedBulkInsert arguments) := rfl

theorem ofArguments_rowsWithKey : ofArguments "rows_with_key" (some arguments) =
    .ok (.rowsWithKey (splitColumns arguments)) := by
  rw [← splitColumns_trim]
  rfl

theorem ofArguments_rowsWithIndex : ofArguments "rows_with_index" (some arguments) =
    .ok (.rowsWithIndex (splitColumns arguments)) := by
  rw [← splitColumns_trim]
  rfl

theorem kind_of_ofArguments {kind : String} {raw : Option String} {d : Designation}
    (h : ofArguments kind raw = .ok d) : d.kind = kind := by
  simp only [ofArguments] at h
  split at h
  next hkind =>
    split at h
    · cases h
      exact hkind.symm
    · cases h
  next =>
    split at h
    next hkind =>
      cases h
      exact hkind.symm
    next =>
      split at h
      next hkind =>
        cases h
        exact hkind.symm
      next =>
        split at h
        · cases h
          rfl
        · cases h

/-- Arguments give a designation with columns exactly if they list its columns in the form that its
    kind asks for. -/
theorem ofArguments_eq_ok_iff {d : Designation} (hd : d.columns?.isSome) :
    ofArguments d.kind (some arguments) = .ok d ↔ Lists arguments d := by
  cases d with
  | bulkInsert table columns =>
    rw [lists_bulkInsert_iff]
    change ofArguments "bulk_insert" _ = _ ↔ _
    rw [ofArguments_bulkInsert]
    cases bulkInsertArguments? arguments with
    | none => simp
    | some found => simp [Prod.ext_iff, and_assoc]
  | rowsWithKey columns =>
    change ofArguments "rows_with_key" _ = _ ↔ _
    rw [ofArguments_rowsWithKey, Except.ok.injEq, rowsWithKey.injEq, splitColumns_eq_iff]
    exact ⟨.rowsWithKey, fun (.rowsWithKey h) => h⟩
  | rowsWithIndex columns =>
    change ofArguments "rows_with_index" _ = _ ↔ _
    rw [ofArguments_rowsWithIndex, Except.ok.injEq, rowsWithIndex.injEq, splitColumns_eq_iff]
    exact ⟨.rowsWithIndex, fun (.rowsWithIndex h) => h⟩
  | plain kind => cases hd

/-- A header gives a designation with columns exactly if its nearest designation lists them. -/
theorem ofHeader_eq_ok_iff {d : Designation} (hd : d.columns?.isSome) :
    ofHeader header = .ok d ↔ ∃ arguments, Nearest header d.kind arguments ∧ Lists arguments d := by
  constructor
  · intro h
    obtain ⟨kind, arguments, hnearest⟩ := nearest_of_ofHeader h
    rw [ofHeader_of_nearest hnearest] at h
    obtain rfl := kind_of_ofArguments h
    exact ⟨arguments, hnearest, (ofArguments_eq_ok_iff hd).1 h⟩
  · rintro ⟨arguments, hnearest, hlists⟩
    rw [ofHeader_of_nearest hnearest]
    exact (ofArguments_eq_ok_iff hd).2 hlists

/-- The listed names are trimmed, and there is at least one. -/
theorem Lists.names {d : Designation} (h : Lists arguments d)
    (hcolumns : d.columns? = some columns) :
    columns ≠ [] ∧ ∀ c ∈ columns, Text.trim c.toList = c.toList := by
  -- the columns of a key or an index are trimmed when they are split
  have hsplit : ∀ {columns : List String},
      List.Forall₂ Padded (columns.map String.toList) (arguments.toList.splitOn ',') →
        columns ≠ [] ∧ ∀ c ∈ columns, Text.trim c.toList = c.toList := by
    intro columns h
    rw [← splitColumns_eq_iff] at h
    subst h
    refine ⟨by simpa [splitColumns] using Text.splitOn_ne_nil ',' arguments.toList, ?_⟩
    intro c hc
    obtain ⟨piece, -, rfl⟩ := List.mem_map.1 hc
    rw [String.toList_ofList, Text.trim_trim]
  cases h with
  | bulkInsert htable hgap hne hnames hlist h =>
    cases hcolumns
    refine ⟨?_, ?_⟩
    · rintro rfl
      exact hlist rfl
    · intro c hc
      apply Text.trim_eq_self_of_solid
      intro x hx
      exact isBlank_of_isIdentifierChar (hnames c hc x hx)
  | rowsWithKey h =>
    cases hcolumns
    exact hsplit h
  | rowsWithIndex h =>
    cases hcolumns
    exact hsplit h

/-- A list with no comma at an end and no two in a row. -/
structure Tight (list : List Char) : Prop where
  head : ',' ∉ list.head?
  last : ',' ∉ list.getLast?
  inner : ¬ [',', ','] <:+: list

/-- No piece of a tight list is empty. -/
theorem Tight.nil_notMem {pieces : List (List Char)}
    (h : Tight (List.intercalate [','] pieces)) (hne : List.intercalate [','] pieces ≠ []) :
    [] ∉ pieces := by
  induction pieces with
  | nil => exact List.not_mem_nil
  | cons piece rest ih =>
    cases rest with
    | nil => simpa [eq_comm] using hne
    | cons next rest =>
      rw [List.intercalate_cons_cons, List.append_assoc, List.singleton_append] at h
      generalize List.intercalate [','] (next :: rest) = joined at h ih
      -- a comma at the start, at the end, or behind another one would leave an empty piece
      have hpiece : piece ≠ [] := by
        rintro rfl
        exact h.head rfl
      have hjoined : joined ≠ [] := by
        rintro rfl
        exact h.last (by simp)
      have htight : Tight joined := by
        refine ⟨fun hc => ?_, fun hc => ?_, fun hc => ?_⟩
        · obtain ⟨tail, rfl⟩ := List.head?_eq_some_iff.1 hc
          exact h.inner ⟨piece, tail, by simp⟩
        · apply h.last
          rw [List.getLast?_append_of_ne_nil _ (List.cons_ne_nil _ _)]
          rw [← List.singleton_append, List.getLast?_append_of_ne_nil _ hjoined]
          exact hc
        · apply h.inner
          exact hc.trans ⟨piece ++ [','], [], by simp⟩
      rw [List.mem_cons, not_or]
      exact ⟨Ne.symm hpiece, ih htight hjoined⟩

/-- No column of a tight list has an empty name. -/
theorem empty_notMem_of_tight (h : Tight (",".intercalate columns).toList)
    (hne : ",".intercalate columns ≠ "") : "" ∉ columns := by
  intro hmem
  rw [Ne, ← String.toList_eq_nil_iff] at hne
  rw [toList_joined] at h hne
  exact h.nil_notMem hne (List.mem_map_of_mem (f := String.toList) hmem)

/-- Columns that are accepted, and arguments that are refused. There is at least one column, and no
    name has white space at its ends; the arguments are written as the designation asks. The list of
    a bulk insert holds no empty name unless it has a comma too many, and is accepted if it holds
    none; the other lists are accepted with what names they have. Any other arguments of a bulk
    insert are malformed. -/
theorem ofHeader_columns (header : List String) :
    (∀ d columns, ofHeader header = .ok d → d.columns? = some columns →
        columns ≠ [] ∧ (∀ c ∈ columns, Text.trim c.toList = c.toList) ∧
          ∃ arguments, Nearest header d.kind arguments ∧ Lists arguments d) ∧
      (∀ table columns, ofHeader header = .ok (.bulkInsert table columns) →
        Tight (",".intercalate columns).toList → "" ∉ columns) ∧
      (∀ d arguments, Nearest header d.kind arguments → Lists arguments d →
        (∀ table columns, d = .bulkInsert table columns → "" ∉ columns) →
          ofHeader header = .ok d) ∧
      ∀ arguments, Nearest header "bulk_insert" arguments →
        (∀ table columns, ¬ Lists arguments (.bulkInsert table columns)) →
          ofHeader header = .error (.malformedBulkInsert arguments) := by
  refine ⟨?_, ?_, ?_, ?_⟩
  · intro d columns h hcolumns
    have hd : d.columns?.isSome := by rw [hcolumns]; rfl
    obtain ⟨arguments, hnearest, hlists⟩ := (ofHeader_eq_ok_iff hd).1 h
    obtain ⟨hne, htrimmed⟩ := hlists.names hcolumns
    exact ⟨hne, htrimmed, arguments, hnearest, hlists⟩
  · intro table columns h htight
    obtain ⟨arguments, -, hlists⟩ := (ofHeader_eq_ok_iff rfl).1 h
    cases hlists with
    | bulkInsert htable hgap hne hnames hlist => exact empty_notMem_of_tight htight hlist
  · intro d arguments hnearest hlists _
    have hd : d.columns?.isSome := by cases hlists <;> rfl
    exact (ofHeader_eq_ok_iff hd).2 ⟨arguments, hnearest, hlists⟩
  · intro arguments hnearest hother
    rw [ofHeader_of_nearest hnearest, ofArguments_bulkInsert]
    cases hread : bulkInsertArguments? arguments with
    | none => rfl
    | some found =>
      exact absurd (lists_bulkInsert_iff.2 ⟨found.2, hread, rfl⟩) (hother found.1 _)

/-- A bulk insert that is accepted, a list with a comma at its end that is accepted too, and a bulk
    insert without columns that is refused. -/
theorem ofHeader_columns_orders :
    (ofHeader ["-- type: none", "-- type: bulk_insert orders order_id,customer_id"] =
        .ok (.bulkInsert "orders" ["order_id", "customer_id"]) ∧
      "" ∉ ["order_id", "customer_id"] ∧
      ∃ arguments, Nearest ["-- type: none", "-- type: bulk_insert orders order_id,customer_id"]
          "bulk_insert" arguments ∧
        Lists arguments (.bulkInsert "orders" ["order_id", "customer_id"])) ∧
    (Nearest ["-- type: rows_with_key usr_id , "] "rows_with_key" "usr_id , " ∧
      Lists "usr_id , " (.rowsWithKey ["usr_id", ""]) ∧
      ofHeader ["-- type: rows_with_key usr_id , "] = .ok (.rowsWithKey ["usr_id", ""])) ∧
    (Nearest ["-- type: bulk_insert orders"] "bulk_insert" "orders" ∧
      (∀ table columns, ¬ Lists "orders" (.bulkInsert table columns)) ∧
      ofHeader ["-- type: bulk_insert orders"] = .error (.malformedBulkInsert "orders")) := by
  refine ⟨?_, ?_, ?_⟩
  · have hread : ofHeader ["-- type: none", "-- type: bulk_insert orders order_id,customer_id"] =
        .ok (.bulkInsert "orders" ["order_id", "customer_id"]) := by decide +kernel
    have htight : Tight (",".intercalate ["order_id", "customer_id"]).toList :=
      ⟨by decide +kernel, by decide +kernel, by decide +kernel⟩
    obtain ⟨haccepted, hnames, -⟩ := ofHeader_columns
      ["-- type: none", "-- type: bulk_insert orders order_id,customer_id"]
    exact ⟨hread, hnames _ _ hread htight, (haccepted _ _ hread rfl).2.2⟩
  · have hnearest : Nearest ["-- type: rows_with_key usr_id , "] "rows_with_key" "usr_id , " :=
      nearest_iff.2 ⟨some "usr_id , ", by decide +kernel, rfl⟩
    have hlists : Lists "usr_id , " (.rowsWithKey ["usr_id", ""]) :=
      .rowsWithKey (splitColumns_eq_iff.1 (by decide +kernel))
    exact ⟨hnearest, hlists, (ofHeader_columns _).2.2.1 _ _ hnearest hlists nofun⟩
  · have hnearest : Nearest ["-- type: bulk_insert orders"] "bulk_insert" "orders" :=
      nearest_iff.2 ⟨some "orders", by decide +kernel, rfl⟩
    have hother : ∀ table columns, ¬ Lists "orders" (.bulkInsert table columns) := by
      intro table columns hlists
      obtain ⟨list, hlist, -⟩ := lists_bulkInsert_iff.1 hlists
      have hnone : bulkInsertArguments? "orders" = none := by decide +kernel
      rw [hnone] at hlist
      cases hlist
    exact ⟨hnearest, hother, (ofHeader_columns _).2.2.2 _ hnearest hother⟩

/-- Nobody looks at the names of rows with a key: two commas in a row make an empty one. -/
theorem ofHeader_nameless_column :
    ∃ d columns, ofHeader ["-- type: rows_with_key usr_id,,cmp_id"] = .ok d ∧
      d.columns? = some columns ∧ "" ∈ columns :=
  ⟨.rowsWithKey ["usr_id", "", "cmp_id"], _, by decide +kernel, rfl, by decide⟩

end Designation

end StoredRoutines
