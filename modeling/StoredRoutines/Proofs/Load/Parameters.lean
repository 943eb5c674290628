import Mathlib.Data.List.Nodup
import StoredRoutines.Load.Parameters

/-!
# List formats of parameters

The formats of the directives are attached one after the other. Each finds the first parameter of
its name, so that in the end the formats stand exactly there. Apart from them the parameters are
copies of the entries of the catalog that have a name.

## Main definitions

- `RoutineParameter.Formatted` — the formats that parameters carry
- `RoutineParameter.CopyOf` — a parameter and the catalog entry that it was made from

## Main results

- `RoutineParameter.Formatted.attach`, `RoutineParameter.Formatted.attachAll` — with one format
  more, and with several
- `RoutineParameter.merge_eq_ok` — the parameters of a routine
- `RoutineParameter.merge_copies` — what a merge returns, and for which formats it fails
-/

namespace StoredRoutines.RoutineParameter

/-- The parameters that carry a format are the first ones of the names of the formats, and the
    format is the one of that name. -/
def Formatted (formats : List ListParameter) (ps : List RoutineParameter) : Prop :=
  ∀ i p, ps[i]? = some p → ∀ format, p.format = some format ↔
    format ∈ formats ∧ format.name = p.name ∧ p.name ∉ (ps.map (·.name)).take i

section

variable {format : ListParameter} {formats done : List ListParameter}
  {ps qs : List RoutineParameter}

/-- A format is attached to the first parameter of its name. -/
theorem attach_eq_ok (h : attach format ps = .ok qs) :
    ∃ i p, ps[i]? = some p ∧ p.name = format.name ∧
      format.name ∉ (ps.map (·.name)).take i ∧ qs = ps.set i { p with format := some format } := by
  induction ps generalizing qs with
  | nil => cases h
  | cons p rest ih =>
    rw [RoutineParameter.attach] at h
    split at h
    next hname =>
      cases h
      exact ⟨0, p, rfl, hname, List.not_mem_nil, rfl⟩
    next hname =>
      cases hrest : attach format rest with
      | error e =>
        rw [hrest] at h
        cases h
      | ok rest' =>
        rw [hrest] at h
        obtain rfl := Except.ok.inj h
        obtain ⟨i, q, hq, hqname, hfirst, rfl⟩ := ih hrest
        refine ⟨i + 1, q, hq, hqname, ?_, rfl⟩
        rw [List.map_cons, List.take_succ_cons, List.mem_cons, not_or]
        exact ⟨fun heq => hname heq.symm, hfirst⟩

theorem attachAll_cons_eq_ok :
    attachAll ps (format :: formats) = .ok qs ↔
      ∃ ps', attach format ps = .ok ps' ∧ attachAll ps' formats = .ok qs := by
  rw [attachAll]
  cases attach format ps with
  | error e => simp [bind, Except.bind]
  | ok ps' => simp [bind, Except.bind]

theorem attach_names (h : attach format ps = .ok qs) : qs.map (·.name) = ps.map (·.name) := by
  obtain ⟨i, p, hp, -, -, rfl⟩ := attach_eq_ok h
  obtain ⟨hi, rfl⟩ := List.getElem?_eq_some_iff.1 hp
  have hlength : i < (ps.map (·.name)).length := by rwa [List.length_map]
  have hname : (ps.map (·.name))[i] = ps[i].name := List.getElem_map _
  rw [List.map_set, ← hname, List.set_getElem_self]

/-- Attaching formats does not change the names. -/
theorem attachAll_names (h : attachAll ps formats = .ok qs) :
    qs.map (·.name) = ps.map (·.name) := by
  induction formats generalizing ps with
  | nil =>
    cases h
    rfl
  | cons format rest ih =>
    obtain ⟨ps', hattach, hrest⟩ := attachAll_cons_eq_ok.1 h
    exact (ih hrest).trans (attach_names hattach)

/-- Each format names a parameter. -/
theorem mem_names_of_attachAll (h : attachAll ps formats = .ok qs)
    (hmem : format ∈ formats) : format.name ∈ ps.map (·.name) := by
  induction formats generalizing ps with
  | nil => cases hmem
  | cons head rest ih =>
    obtain ⟨ps', hattach, hrest⟩ := attachAll_cons_eq_ok.1 h
    rcases List.mem_cons.1 hmem with rfl | hmem
    · obtain ⟨i, p, hp, hname, -⟩ := attach_eq_ok hattach
      rw [← hname]
      exact List.mem_map_of_mem (List.mem_of_getElem? hp)
    · rw [← attach_names hattach]
      exact ih hrest hmem

/-- A format of a new name goes to the first parameter of that name, and the parameters that
    carry other formats keep them. -/
theorem Formatted.attach (hps : Formatted done ps) (hnew : format.name ∉ done.map (·.name))
    (h : attach format ps = .ok qs) : Formatted (done ++ [format]) qs := by
  have hnames := attach_names h
  obtain ⟨i, p, hp, hname, hfirst, rfl⟩ := attach_eq_ok h
  obtain ⟨hi, rfl⟩ := List.getElem?_eq_some_iff.1 hp
  intro j q hq other
  rw [hnames, List.mem_append, List.mem_singleton]
  rw [List.getElem?_set] at hq
  split at hq
  next hij =>
    subst hij
    obtain rfl := Option.some.inj hq
    simp only [Option.some.injEq, hname]
    constructor
    · rintro rfl
      exact ⟨.inr rfl, rfl, hfirst⟩
    · rintro ⟨hother | hother, hsame, -⟩
      -- the names of the formats differ, and the parameter has that of the new one
      · exact absurd (hsame ▸ List.mem_map_of_mem hother) hnew
      · exact hother.symm
  next hij =>
    rw [hps j q hq other]
    refine ⟨fun ⟨hmem, hrest⟩ => ⟨.inl hmem, hrest⟩, ?_⟩
    rintro ⟨hmem | rfl, hsame, hbefore⟩
    · exact ⟨hmem, hsame, hbefore⟩
    · -- another parameter of the name can only come after the first one
      exfalso
      have hnameI : (ps.map (·.name))[i]? = some other.name := by
        rw [List.getElem?_map, hp, Option.map_some, hname]
      have hnameJ : (ps.map (·.name))[j]? = some other.name := by
        rw [List.getElem?_map, hq, Option.map_some, hsame]
      rcases Nat.lt_or_gt_of_ne hij with hlt | hlt
      · exact hbefore (hsame ▸ List.mem_of_getElem? ((List.getElem?_take_of_lt hlt).trans hnameI))
      · exact hfirst (List.mem_of_getElem? ((List.getElem?_take_of_lt hlt).trans hnameJ))

/-- Formats of different names are all there in the end, each at the first parameter of its name. -/
theorem Formatted.attachAll (hps : Formatted done ps)
    (hnodup : ((done ++ formats).map (·.name)).Nodup)
    (h : attachAll ps formats = .ok qs) : Formatted (done ++ formats) qs := by
  induction formats generalizing done ps with
  | nil =>
    cases h
    rwa [List.append_nil]
  | cons format rest ih =>
    obtain ⟨ps', hattach, hrest⟩ := attachAll_cons_eq_ok.1 h
    have hnew : format.name ∉ done.map (·.name) := by
      rw [List.map_append, List.map_cons] at hnodup
      exact fun hmem => (List.nodup_append.1 hnodup).2.2 _ hmem _ List.mem_cons_self rfl
    rw [List.append_cons] at hnodup ⊢
    exact ih (hps.attach hnew hattach) hnodup hrest

end

/-- A parameter that is copied from the catalog has a name and no format. -/
theorem ofCatalog?_eq_some {entry : CatalogParameter} {p : RoutineParameter}
    (h : ofCatalog? entry = some p) : p.name ≠ "" ∧ p.format = none := by
  unfold ofCatalog? at h
  split at h
  · split at h
    · cases h
    next hname =>
      cases h
      exact ⟨by simpa using hname, rfl⟩
  · cases h

/-- The parameters of a routine have names, and they carry the formats that were declared. -/
theorem merge_eq_ok {catalog : List CatalogParameter} {formats : List ListParameter}
    {qs : List RoutineParameter} (hnodup : (formats.map (·.name)).Nodup)
    (h : merge catalog formats = .ok qs) :
    (∀ q ∈ qs, q.name ≠ "") ∧ (∀ format ∈ formats, format.name ∈ qs.map (·.name)) ∧
      Formatted formats qs := by
  have hnames := attachAll_names h
  have hplain : ∀ p ∈ catalog.filterMap ofCatalog?, p.name ≠ "" ∧ p.format = none := fun p hp => by
    obtain ⟨entry, -, hentry⟩ := List.mem_filterMap.1 hp
    exact ofCatalog?_eq_some hentry
  refine ⟨fun q hq => ?_, fun format hmem => ?_, ?_⟩
  · have hname : q.name ∈ (catalog.filterMap ofCatalog?).map (·.name) :=
      hnames ▸ List.mem_map_of_mem hq
    obtain ⟨p, hp, hsame⟩ := List.mem_map.1 hname
    exact hsame ▸ (hplain p hp).1
  · rw [hnames]
    exact mem_names_of_attachAll h hmem
  · have hnone : Formatted [] (catalog.filterMap ofCatalog?) := fun i p hp format => by
      simp [(hplain p (List.mem_of_getElem? hp)).2]
    exact hnone.attachAll hnodup h

/-! ### Entries and their copies -/

/-- An entry of a catalog has a name that is not empty. -/
def isNamed (entry : CatalogParameter) : Bool :=
  entry.name.any (· ≠ "")

/-- A catalog has an entry of a name that is not empty. -/
def Lists (catalog : List CatalogParameter) (name : String) : Prop :=
  name ≠ "" ∧ ∃ entry ∈ catalog, entry.name = some name

/-- A parameter is a copy of a catalog entry, whatever its format. -/
structure CopyOf (entry : CatalogParameter) (p : RoutineParameter) : Prop where
  name : entry.name = some p.name
  dataType : p.dataType = entry.dataType
  declaredType : p.declaredType = entry.declaredType
  characterSet : p.characterSet = entry.characterSet
  collation : p.collation = entry.collation
  descriptor : p.descriptor = entry.descriptor

variable {entry : CatalogParameter} {catalog entries : List CatalogParameter}
  {p q : RoutineParameter} {ps qs : List RoutineParameter} {format : ListParameter}
  {formats formats' : List ListParameter} {e : LoadError}

/-- Two copies of an entry differ in their formats only. -/
theorem CopyOf.eq (hp : CopyOf entry p) (hq : CopyOf entry q) (hformat : p.format = q.format) :
    p = q := by
  obtain ⟨name, dataType, declaredType, characterSet, collation, descriptor, format⟩ := p
  obtain ⟨name', dataType', declaredType', characterSet', collation', descriptor', format'⟩ := q
  obtain ⟨hname, rfl, rfl, rfl, rfl, rfl⟩ := hp
  obtain ⟨hname', rfl, rfl, rfl, rfl, rfl⟩ := hq
  obtain rfl := Option.some.inj (hname.symm.trans hname')
  obtain rfl := hformat
  rfl

/-- The entries that make parameters are those with a name. -/
theorem copies_ofCatalog? (catalog : List CatalogParameter) :
    List.Forall₂ CopyOf (catalog.filter isNamed) (catalog.filterMap ofCatalog?) := by
  induction catalog with
  | nil => exact .nil
  | cons entry rest ih =>
    obtain ⟨name, dataType, declaredType, characterSet, collation⟩ := entry
    cases name with
    | none => exact ih
    | some name =>
      by_cases hname : name = ""
      · subst hname
        exact ih
      · have hnamed :
            isNamed ⟨some name, dataType, declaredType, characterSet, collation⟩ = true := by
          simpa [isNamed] using hname
        have hempty : name.isEmpty = false := by simpa using hname
        rw [List.filter_cons_of_pos hnamed, List.filterMap_cons, ofCatalog?]
        simp only [hempty]
        exact .cons ⟨rfl, rfl, rfl, rfl, rfl, rfl⟩ ih

/-- Attaching a format leaves everything else as it was copied. -/
theorem attach_copies (hcopies : List.Forall₂ CopyOf entries ps) (h : attach format ps = .ok qs) :
    List.Forall₂ CopyOf entries qs := by
  induction hcopies generalizing qs with
  | nil => cases h
  | cons hcopy hrest ih =>
    rename_i entry p entries rest
    rw [attach] at h
    split at h
    · obtain rfl := Except.ok.inj h
      exact .cons ⟨hcopy.name, hcopy.dataType, hcopy.declaredType, hcopy.characterSet,
        hcopy.collation, hcopy.descriptor⟩ hrest
    · cases hattach : attach format rest with
      | error e =>
        rw [hattach] at h
        cases h
      | ok qs =>
        rw [hattach] at h
        obtain rfl := Except.ok.inj h
        exact .cons hcopy (ih hattach)

/-- Parameters with formats are still copies of the catalog. -/
theorem attachAll_copies (hcopies : List.Forall₂ CopyOf entries ps)
    (h : attachAll ps formats = .ok qs) : List.Forall₂ CopyOf entries qs := by
  induction formats generalizing ps with
  | nil =>
    obtain rfl := Except.ok.inj h
    exact hcopies
  | cons format rest ih =>
    obtain ⟨ps', hattach, hrest⟩ := attachAll_cons_eq_ok.1 h
    exact ih (attach_copies hcopies hattach) hrest

theorem names_of_copies (h : List.Forall₂ CopyOf entries ps) :
    ps.map (fun p => some p.name) = entries.map (·.name) := by
  induction h with
  | nil => rfl
  | cons hcopy _ ih => rw [List.map_cons, List.map_cons, ih, hcopy.name]

/-- The parameters of a catalog have the names that it lists. -/
theorem mem_names_iff_lists {name : String} :
    name ∈ (catalog.filterMap ofCatalog?).map (·.name) ↔ Lists catalog name := by
  calc name ∈ (catalog.filterMap ofCatalog?).map (·.name)
    _ ↔ some name ∈ (catalog.filterMap ofCatalog?).map fun p => some p.name := by simp
    _ ↔ some name ∈ (catalog.filter isNamed).map (·.name) := by
      rw [names_of_copies (copies_ofCatalog? catalog)]
    _ ↔ Lists catalog name := by
      rw [List.mem_map, Lists]
      constructor
      · rintro ⟨entry, hentry, hname⟩
        obtain ⟨hmem, hnamed⟩ := List.mem_filter.1 hentry
        rw [isNamed, hname] at hnamed
        exact ⟨by simpa using hnamed, entry, hmem, hname⟩
      · rintro ⟨hne, entry, hmem, hname⟩
        refine ⟨entry, List.mem_filter.2 ⟨hmem, ?_⟩, hname⟩
        rw [isNamed, hname]
        simpa using hne

theorem eq_of_copies (hp : List.Forall₂ CopyOf entries ps) (hq : List.Forall₂ CopyOf entries qs)
    (hformat : ps.map (·.format) = qs.map (·.format)) : ps = qs := by
  induction hp generalizing qs with
  | nil =>
    cases hq
    rfl
  | cons hcopy _ ih =>
    cases hq with
    | cons hcopy' hrest =>
      obtain ⟨hhead, htail⟩ := List.cons.inj hformat
      rw [hcopy.eq hcopy' hhead, ih hrest htail]

/-- Where the formats stand follows from the names of the parameters and from what formats there
    are. -/
theorem Formatted.eq (hps : Formatted formats ps) (hqs : Formatted formats' qs)
    (hnames : ps.map (·.name) = qs.map (·.name)) (hmem : ∀ f, f ∈ formats ↔ f ∈ formats') :
    ps.map (·.format) = qs.map (·.format) := by
  refine List.ext_getElem? fun i => ?_
  have hname : (ps[i]?).map (·.name) = (qs[i]?).map (·.name) := by
    rw [← List.getElem?_map, hnames, List.getElem?_map]
  rw [List.getElem?_map, List.getElem?_map]
  cases hp : ps[i]? with
  | none =>
    rw [hp, Option.map_none, eq_comm, Option.map_eq_none_iff] at hname
    rw [hname]
  | some p =>
    rw [hp, Option.map_some, eq_comm, Option.map_eq_some_iff] at hname
    obtain ⟨q, hq, hname⟩ := hname
    have hformat : p.format = q.format := by
      refine Option.ext fun f => ?_
      rw [hps i p hp f, hqs i q hq f, hmem, hname, hnames]
    rw [hq, Option.map_some, Option.map_some, hformat]

/-! ### Formats without a parameter -/

/-- A format is refused if no parameter has its name. -/
theorem attach_eq_error_iff : attach format ps = .error e ↔
    format.name ∉ ps.map (·.name) ∧ e = .unknownListParameter format.name := by
  induction ps with
  | nil => simp [attach, eq_comm]
  | cons p rest ih =>
    rw [attach, List.map_cons, List.mem_cons, not_or]
    by_cases hname : p.name = format.name
    · rw [if_pos hname]
      exact iff_of_false nofun fun h => h.1.1 hname.symm
    · rw [if_neg hname]
      have hmap : (attach format rest).map (p :: ·) = .error e ↔ attach format rest = .error e := by
        cases attach format rest <;> simp [Except.map]
      rw [hmap, ih, and_assoc]
      exact (and_iff_right (Ne.symm hname)).symm

/-- Attaching fails at the first format without a parameter. -/
theorem attachAll_eq_error_iff : attachAll ps formats = .error e ↔
    ∃ before format after, formats = before ++ format :: after ∧
      (∀ f ∈ before, f.name ∈ ps.map (·.name)) ∧ format.name ∉ ps.map (·.name) ∧
      e = .unknownListParameter format.name := by
  induction formats generalizing ps with
  | nil =>
    refine iff_of_false nofun ?_
    rintro ⟨before, format, after, hnil, -⟩
    cases before <;> cases hnil
  | cons format rest ih =>
    rw [attachAll]
    cases hattach : attach format ps with
    | error e' =>
      -- the first format is refused, and no other one can be the first without a parameter
      obtain ⟨hnot, rfl⟩ := attach_eq_error_iff.1 hattach
      constructor
      · intro h
        obtain rfl := Except.error.inj h
        exact ⟨[], format, rest, rfl, nofun, hnot, rfl⟩
      · rintro ⟨before, other, after, hsplit, hbefore, -, rfl⟩
        cases before with
        | nil =>
          obtain ⟨rfl, rfl⟩ := List.cons.inj hsplit
          rfl
        | cons first before =>
          obtain ⟨rfl, rfl⟩ := List.cons.inj hsplit
          exact absurd (hbefore _ List.mem_cons_self) hnot
    | ok qs =>
      -- the first format is attached, which leaves the names as they are
      have hnames := attach_names hattach
      obtain ⟨i, p, hp, hname, -⟩ := attach_eq_ok hattach
      have hmem : format.name ∈ ps.map (·.name) :=
        hname ▸ List.mem_map_of_mem (List.mem_of_getElem? hp)
      change attachAll qs rest = .error e ↔ _
      rw [ih, hnames]
      constructor
      · rintro ⟨before, other, after, rfl, hbefore, hother, rfl⟩
        exact ⟨format :: before, other, after, rfl, List.forall_mem_cons.2 ⟨hmem, hbefore⟩, hother,
          rfl⟩
      · rintro ⟨before, other, after, hsplit, hbefore, hother, rfl⟩
        cases before with
        | nil =>
          obtain ⟨rfl, rfl⟩ := List.cons.inj hsplit
          exact absurd hmem hother
        | cons first before =>
          obtain ⟨rfl, rfl⟩ := List.cons.inj hsplit
          exact ⟨before, other, after, rfl, (List.forall_mem_cons.1 hbefore).2, hother, rfl⟩

/-! ### The merge -/

/-- The first format whose name the catalog does not list is the error. -/
theorem merge_eq_error_iff : merge catalog formats = .error e ↔
    ∃ before format after, formats = before ++ format :: after ∧
      (∀ f ∈ before, Lists catalog f.name) ∧ ¬ Lists catalog format.name ∧
      e = .unknownListParameter format.name := by
  simp only [merge, attachAll_eq_error_iff, mem_names_iff_lists]

/-- All formats are attached if the catalog lists all of their names. -/
theorem exists_merge_eq_ok_iff :
    (∃ qs, merge catalog formats = .ok qs) ↔ ∀ f ∈ formats, Lists catalog f.name := by
  constructor
  · rintro ⟨qs, h⟩ f hf
    exact mem_names_iff_lists.1 (mem_names_of_attachAll h hf)
  · intro h
    cases hmerge : merge catalog formats with
    | ok qs => exact ⟨qs, rfl⟩
    | error e =>
      obtain ⟨before, format, after, rfl, -, hnot, -⟩ := merge_eq_error_iff.1 hmerge
      exact absurd (h format (by simp)) hnot

/-- The order of the formats makes no difference. -/
theorem merge_perm (hnodup : (formats.map (·.name)).Nodup) (hperm : formats'.Perm formats)
    (h : merge catalog formats = .ok qs) : merge catalog formats' = .ok qs := by
  have hlists : ∀ f ∈ formats', Lists catalog f.name := by
    intro f hf
    exact exists_merge_eq_ok_iff.1 ⟨qs, h⟩ f (hperm.mem_iff.1 hf)
  obtain ⟨qs', h'⟩ := exists_merge_eq_ok_iff.2 hlists
  have hnodup' : (formats'.map (·.name)).Nodup := (hperm.map _).nodup_iff.2 hnodup
  have hnames : qs'.map (·.name) = qs.map (·.name) :=
    (attachAll_names h').trans (attachAll_names h).symm
  have hcopies := copies_ofCatalog? catalog
  have hformat := (merge_eq_ok hnodup' h').2.2.eq (merge_eq_ok hnodup h).2.2 hnames
    fun f => hperm.mem_iff
  rw [h', eq_of_copies (attachAll_copies hcopies h') (attachAll_copies hcopies h) hformat]

/-- What a merge returns, and for which formats it fails. The parameters are copies of the entries
    that have a name, in the order of the catalog. A format stands at the first parameter of its
    name, and in whatever order the formats are given, there are no others. There is a result if
    every format names a parameter; otherwise the first one that does not is named by the error. -/
theorem merge_copies (hnodup : (formats.map (·.name)).Nodup) :
    ((∃ qs, merge catalog formats = .ok qs) ↔ ∀ f ∈ formats, Lists catalog f.name) ∧
    (∀ qs, merge catalog formats = .ok qs →
      List.Forall₂ CopyOf (catalog.filter isNamed) qs ∧ Formatted formats qs ∧
        ∀ formats', formats'.Perm formats → merge catalog formats' = .ok qs) ∧
    ∀ e, merge catalog formats = .error e ↔
      ∃ before format after, formats = before ++ format :: after ∧
        (∀ f ∈ before, Lists catalog f.name) ∧ ¬ Lists catalog format.name ∧
        e = .unknownListParameter format.name := by
  refine ⟨exists_merge_eq_ok_iff, ?_, fun e => merge_eq_error_iff⟩
  intro qs h
  exact ⟨attachAll_copies (copies_ofCatalog? catalog) h, (merge_eq_ok hnodup h).2.2,
    fun formats' hperm => merge_perm hnodup hperm h⟩

/-- A format of the usual form. -/
def commaList (name : String) : ListParameter :=
  ⟨name, "csv", ',', '"', '\\'⟩

/-- A catalog with the return value of a function, an empty name and a name that is listed twice. -/
def invoiceCatalog : List CatalogParameter :=
  [⟨none, "int", "int(11)", none, none⟩,
    ⟨some "tags", "varchar", "varchar(80)", some "utf8mb4", some "utf8mb4_bin"⟩,
    ⟨some "", "text", "text", none, none⟩, .ofDeclaration "ids" "text",
    .ofDeclaration "tags" "text"]

/-- The parameters of the catalog with the formats of two directives. -/
def invoiceParameters : List RoutineParameter :=
  [⟨"tags", "varchar", "varchar(80)", some "utf8mb4", some "utf8mb4_bin",
      "varchar(80) character set utf8mb4 collation utf8mb4_bin", some (commaList "tags")⟩,
    ⟨"ids", "text", "text", none, none, "text", some (commaList "ids")⟩,
    ⟨"tags", "text", "text", none, none, "text", none⟩]

/-- Two formats in either order, and two of which the first has no parameter. -/
theorem merge_copies_invoice :
    ([commaList "ids", commaList "tags"].map (·.name)).Nodup ∧
      merge invoiceCatalog [commaList "ids", commaList "tags"] = .ok invoiceParameters ∧
      merge invoiceCatalog [commaList "tags", commaList "ids"] = .ok invoiceParameters ∧
      List.Forall₂ CopyOf (invoiceCatalog.filter isNamed) invoiceParameters ∧
      Formatted [commaList "ids", commaList "tags"] invoiceParameters ∧
      ([commaList "ids", commaList "note", commaList "memo"].map (·.name)).Nodup ∧
      merge invoiceCatalog [commaList "ids", commaList "note", commaList "memo"] =
        .error (.unknownListParameter "note") := by
  have hnodup : ([commaList "ids", commaList "tags"].map (·.name)).Nodup := by decide
  have hnodup' : ([commaList "ids", commaList "note", commaList "memo"].map (·.name)).Nodup := by
    decide
  have hmerge : merge invoiceCatalog [commaList "ids", commaList "tags"] =
      .ok invoiceParameters := by decide +kernel
  obtain ⟨-, hresult, -⟩ := @merge_copies invoiceCatalog _ hnodup
  obtain ⟨hcopies, hformatted, hperm⟩ := hresult _ hmerge
  obtain ⟨-, -, herror⟩ := @merge_copies invoiceCatalog _ hnodup'
  have hids : Lists invoiceCatalog "ids" := mem_names_iff_lists.1 (by decide +kernel)
  have hnote : ¬ Lists invoiceCatalog "note" := by
    rw [← mem_names_iff_lists]
    decide +kernel
  refine ⟨hnodup, hmerge, hperm _ (List.Perm.swap _ _ _), hcopies, hformatted, hnodup', ?_⟩
  refine (herror _).2 ⟨[commaList "ids"], commaList "note", [commaList "memo"], rfl, ?_, hnote, rfl⟩
  intro f hf
  obtain rfl := List.mem_singleton.1 hf
  exact hids

end StoredRoutines.RoutineParameter
