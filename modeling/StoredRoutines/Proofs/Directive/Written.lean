import StoredRoutines.Proofs.Directive.Line

/-!
# Written headers

Directives that are written into a header are read back from it, in whatever order they stand and
whatever else stands between them. Of several type directives the one nearest to `begin` counts, and
so does the nearest of several return directives; the others stand above it.

## Main definitions

- `DirectiveLine.Carries` — a line begins like the directives of a keyword
- `Directives.Silent` — a line that says nothing
- `Directives.Written` — the headers that directives are written into

## Main results

- `Directives.ofLines_written` — the directives are read back
-/

namespace StoredRoutines

namespace DirectiveLine

/-- A line begins like the directives of a keyword. -/
def Carries (keyword line : String) : Prop :=
  (afterComment? keyword line.toList).isSome

variable {keyword line : String}

theorem carries_comment (hk : keyword ∈ keywords) (text : String) :
    Carries keyword (comment keyword text) := by
  rw [Carries, afterComment?_comment _ hk]
  rfl

theorem Carries.ne_begin (h : Carries keyword line) : line ≠ "begin" := by
  rintro rfl
  cases h

theorem carries_of_designation? (h : (designation? line).isSome) : Carries "type" line := by
  unfold designation? at h
  unfold Carries
  cases hs : afterComment? "type" line.toList with
  | none => simp [hs] at h
  | some s => rfl

theorem carries_of_returnType? (h : (returnType? line).isSome) : Carries "return" line := by
  unfold returnType? at h
  unfold Carries
  cases hs : afterComment? "return" line.toList with
  | none => simp [hs] at h
  | some s => rfl

/-! A line that carries one kind of directive is passed over by the recognisers of the others. -/

theorem designation?_eq_none (h : Carries keyword line) (hk : keyword ∈ keywords)
    (hne : keyword ≠ "type") : designation? line = none := by
  by_contra hsome
  have htype := carries_of_designation? (Option.isSome_iff_ne_none.2 hsome)
  exact hne (afterComment?_unique hk (by decide) h htype)

theorem returnType?_eq_none (h : Carries keyword line) (hk : keyword ∈ keywords)
    (hne : keyword ≠ "return") : returnType? line = none := by
  by_contra hsome
  have hreturn := carries_of_returnType? (Option.isSome_iff_ne_none.2 hsome)
  exact hne (afterComment?_unique hk (by decide) h hreturn)

theorem isListParameter_eq_false (h : Carries keyword line) (hk : keyword ∈ keywords)
    (hne : keyword ≠ "param") : isListParameter line = false := by
  by_contra hparam
  rw [Bool.not_eq_false] at hparam
  exact hne (afterComment?_unique hk (by decide) h hparam)

end DirectiveLine

open DirectiveLine

/-! ### Headers -/

/-- A header ends at the first line that is `begin`. -/
theorem header?_append {header : List String} (h : ∀ line ∈ header, line ≠ "begin")
    (body : List String) : header? (header ++ "begin" :: body) = some header := by
  induction header with
  | nil => rfl
  | cons line rest ih =>
    have hrest := ih fun l hl => h l (List.mem_cons_of_mem _ hl)
    rw [List.cons_append, header?, if_neg (h line List.mem_cons_self), hrest]
    rfl

namespace ReturnType

/-- The directive for a return type. -/
def line (type : String) : String := comment "return" type

end ReturnType

namespace Directives

/-- A line that is no directive and does not end the header. -/
@[mk_iff]
structure Silent (line : String) : Prop where
  ne_begin : line ≠ "begin"
  designation? : DirectiveLine.designation? line = none
  returnType? : DirectiveLine.returnType? line = none
  isListParameter : DirectiveLine.isListParameter line = false

instance : DecidablePred Silent := fun line => decidable_of_iff' _ (silent_iff line)

/-- The headers into which a designation, a return type and list formats are written, one line each.
    Their order is free but for that of the list formats, and silent lines may stand anywhere. As
    long as the designation or the return type is still to come, another one may be stated. -/
inductive Written : Option Designation → Option String → List ListParameter → List String → Prop
  | nil : Written none none [] []
  | designation {d : Designation} {t : Option String} {ps : List ListParameter}
      {rest : List String} (h : Written none t ps rest) : Written (some d) t ps (d.line :: rest)
  | returnType {d : Option Designation} {t : String} {ps : List ListParameter}
      {rest : List String} (h : Written d none ps rest) :
      Written d (some t) ps (ReturnType.line t :: rest)
  | listParameter {d : Option Designation} {t : Option String} {p : ListParameter}
      {ps : List ListParameter} {rest : List String} (h : Written d t ps rest) :
      Written d t (p :: ps) (p.line :: rest)
  | silent {d : Option Designation} {t : Option String} {ps : List ListParameter} {line : String}
      {rest : List String} (hline : Silent line) (h : Written d t ps rest) :
      Written d t ps (line :: rest)
  | fartherDesignation {d : Designation} {t : Option String} {ps : List ListParameter}
      {line : String} {rest : List String} (hline : (designation? line).isSome)
      (h : Written (some d) t ps rest) : Written (some d) t ps (line :: rest)
  | fartherReturnType {d : Option Designation} {t : String} {ps : List ListParameter}
      {line : String} {rest : List String} (hline : (returnType? line).isSome)
      (h : Written d (some t) ps rest) : Written d (some t) ps (line :: rest)

theorem carries_designation (d : Designation) : Carries "type" d.line :=
  carries_comment (by decide) _

theorem carries_returnType (t : String) : Carries "return" (ReturnType.line t) :=
  carries_comment (by decide) _

theorem carries_listParameter (p : ListParameter) : Carries "param" p.line :=
  carries_comment (by decide) _

/-- The nearest directive is that of the lines below, if they hold one. -/
theorem findSome?_reverse_cons {α : Type} (read : String → Option α) (line : String)
    (rest : List String) :
    (line :: rest).reverse.findSome? read = (rest.reverse.findSome? read).or (read line) := by
  rw [List.reverse_cons, List.findSome?_append, List.findSome?_singleton]

namespace Written

variable {d : Option Designation} {t : Option String} {ps : List ListParameter}
  {header : List String}

theorem ne_begin (h : Written d t ps header) : ∀ line ∈ header, line ≠ "begin" := by
  induction h with
  | nil => nofun
  | designation _ ih => exact List.forall_mem_cons.2 ⟨(carries_designation _).ne_begin, ih⟩
  | returnType _ ih => exact List.forall_mem_cons.2 ⟨(carries_returnType _).ne_begin, ih⟩
  | listParameter _ ih => exact List.forall_mem_cons.2 ⟨(carries_listParameter _).ne_begin, ih⟩
  | silent hline _ ih => exact List.forall_mem_cons.2 ⟨hline.ne_begin, ih⟩
  | fartherDesignation hline _ ih =>
    exact List.forall_mem_cons.2 ⟨(carries_of_designation? hline).ne_begin, ih⟩
  | fartherReturnType hline _ ih =>
    exact List.forall_mem_cons.2 ⟨(carries_of_returnType? hline).ne_begin, ih⟩

/-- The designation of a written header is found. -/
theorem nearest_designation (h : Written d t ps header) (hd : ∀ x ∈ d, x.Writable) :
    header.reverse.findSome? designation? = d.map fun x => (x.kind, x.arguments) := by
  induction h with
  | nil => rfl
  | @designation x _ _ _ _ ih =>
    rw [findSome?_reverse_cons, ih nofun, Designation.designation?_line (hd x rfl)]
    rfl
  | @returnType _ t _ _ _ ih =>
    have hline := designation?_eq_none (carries_returnType t) (by decide) (by decide)
    rw [findSome?_reverse_cons, hline, Option.or_none, ih hd]
  | @listParameter _ _ p _ _ _ ih =>
    have hline := designation?_eq_none (carries_listParameter p) (by decide) (by decide)
    rw [findSome?_reverse_cons, hline, Option.or_none, ih hd]
  | silent hline _ ih => rw [findSome?_reverse_cons, hline.designation?, Option.or_none, ih hd]
  | fartherDesignation _ _ ih =>
    rw [findSome?_reverse_cons, ih hd]
    rfl
  | fartherReturnType hline _ ih =>
    have hline := designation?_eq_none (carries_of_returnType? hline) (by decide) (by decide)
    rw [findSome?_reverse_cons, hline, Option.or_none, ih hd]

/-- The return type of a written header is found. -/
theorem nearest_returnType (h : Written d t ps header) (ht : ∀ x ∈ t, Text.IsRun isReturnChar x) :
    ReturnType.ofHeader header = t := by
  unfold ReturnType.ofHeader
  induction h with
  | nil => rfl
  | @designation x _ _ _ _ ih =>
    have hline := returnType?_eq_none (carries_designation x) (by decide) (by decide)
    rw [findSome?_reverse_cons, hline, Option.or_none, ih ht]
  | @returnType _ t _ _ _ ih =>
    rw [findSome?_reverse_cons, ih nofun, ReturnType.line, returnType?_comment (ht t rfl)]
    rfl
  | @listParameter _ _ p _ _ _ ih =>
    have hline := returnType?_eq_none (carries_listParameter p) (by decide) (by decide)
    rw [findSome?_reverse_cons, hline, Option.or_none, ih ht]
  | silent hline _ ih => rw [findSome?_reverse_cons, hline.returnType?, Option.or_none, ih ht]
  | fartherDesignation hline _ ih =>
    have hline := returnType?_eq_none (carries_of_designation? hline) (by decide) (by decide)
    rw [findSome?_reverse_cons, hline, Option.or_none, ih ht]
  | fartherReturnType _ _ ih =>
    rw [findSome?_reverse_cons, ih ht]
    rfl

/-- The lines between the list formats are passed over, so only the names used above matter. -/
theorem listParameters (h : Written d t ps header) (hps : ∀ p ∈ ps, p.Writable) {used : List String}
    (hnames : (ps.map (·.name)).Nodup) (hnew : ∀ p ∈ ps, p.name ∉ used) (number : Nat) :
    ListParameter.ofLines number used header = .ok ps := by
  -- a line of another kind is passed over whatever has been used
  have hskip : ∀ {line : String} {rest : List String} {qs : List ListParameter} {used : List String}
      {number : Nat}, isListParameter line = false →
      ListParameter.ofLines (number + 1) used rest = .ok qs →
      ListParameter.ofLines number used (line :: rest) = .ok qs := by
    intro line rest qs used number hline hrest
    rw [ListParameter.ofLines, if_neg (Bool.eq_false_iff.1 hline), hrest]
  induction h generalizing used number with
  | nil => rfl
  | @designation x _ _ _ _ ih =>
    exact hskip (isListParameter_eq_false (carries_designation x) (by decide) (by decide))
      (ih hps hnames hnew _)
  | @returnType _ t _ _ _ ih =>
    exact hskip (isListParameter_eq_false (carries_returnType t) (by decide) (by decide))
      (ih hps hnames hnew _)
  | @listParameter _ _ p ps rest _ ih =>
    obtain ⟨hp, hps⟩ := List.forall_mem_cons.1 hps
    obtain ⟨hpnew, hnew⟩ := List.forall_mem_cons.1 hnew
    rw [List.map_cons, List.nodup_cons] at hnames
    have hline : isListParameter p.line = true := carries_listParameter p
    have hunused : used.contains p.name = false := by simpa using hpnew
    -- the name of `p` is in use from here on, but no later parameter has it
    have hrest : ListParameter.ofLines (number + 1) (p.name :: used) rest = .ok ps := by
      refine ih hps hnames.2 (fun q hq hmem => ?_) _
      rcases List.mem_cons.1 hmem with hname | hmem
      · exact hnames.1 (hname ▸ List.mem_map_of_mem hq)
      · exact hnew q hq hmem
    rw [ListParameter.ofLines, if_pos hline, ListParameter.listParameter?_line hp]
    simp only [hunused, hrest, Bool.false_eq_true, if_false]
    rfl
  | silent hline _ ih => exact hskip hline.isListParameter (ih hps hnames hnew _)
  | fartherDesignation hline _ ih =>
    exact hskip
      (isListParameter_eq_false (carries_of_designation? hline) (by decide) (by decide))
      (ih hps hnames hnew _)
  | fartherReturnType hline _ ih =>
    exact hskip (isListParameter_eq_false (carries_of_returnType? hline) (by decide) (by decide))
      (ih hps hnames hnew _)

end Written

/-- Directives are read back from the header they are written into. The return type is kept by the
    designations that return a single value and dropped by all others. -/
theorem ofLines_written {d : Designation} {t : String} {ps : List ListParameter}
    {header : List String} (hd : d.Writable) (ht : Text.IsRun isReturnChar t)
    (hps : ∀ p ∈ ps, p.Writable) (hnames : (ps.map (·.name)).Nodup)
    (hheader : Written (some d) (some t) ps header) (body : List String) :
    Directives.ofLines (header ++ "begin" :: body) =
      .ok ⟨d, if d.kind ∈ ["function", "singleton0", "singleton1"] then some t else none, ps⟩ := by
  have hnearest : header.reverse.findSome? designation? = some (d.kind, d.arguments) :=
    hheader.nearest_designation (by rintro _ ⟨⟩; exact hd)
  have hdesignation : Designation.ofHeader header = .ok d := by
    rw [Designation.ofHeader, hnearest]
    exact Designation.ofArguments_arguments hd
  have hreturn : ReturnType.ofHeader header = some t :=
    hheader.nearest_returnType (by rintro _ ⟨⟩; exact ht)
  have hlists : ListParameter.ofHeader header = .ok ps :=
    hheader.listParameters hps hnames (fun _ _ => List.not_mem_nil) 1
  have hkept : returnTypeFor header d =
      if d.kind ∈ ["function", "singleton0", "singleton1"] then some t else none := by
    rw [returnTypeFor, hreturn, Option.getD_some]
    simp only [Designation.returnsValue, Designation.valueKinds, List.contains_iff_mem]
  rw [Directives.ofLines, header?_append hheader.ne_begin]
  simp only [hdesignation, hlists, bind, Except.bind, pure, Except.pure, hkept]

/-- Two lists, one of them with a name beyond ASCII. -/
def unpackedLists : List ListParameter :=
  [⟨"ids", "list", ';', '\'', '/'⟩, ⟨"größen", "csv", ',', '"', '\\'⟩]

/-- A header in which the directives stand among lines that announce nothing or are too far away. -/
def unpackedHeader : List String :=
  ["create function unpacked(ids text, größen text) returns text", "  -- type: rows_with_key id",
    "-- return: mixed", "-- return: int|null", "-- param: ids list ; ' /", "-- types: none",
    "--\ttype:bulk_insert", "-- type: function", "-- param: größen csv , \" \\"]

/-- The lines of the example are a written header. -/
theorem written_unpacked :
    Written (some (.plain "function")) (some "int|null") unpackedLists unpackedHeader := by
  have hlines : unpackedHeader =
      ["create function unpacked(ids text, größen text) returns text",
        "  -- type: rows_with_key id", "-- return: mixed", ReturnType.line "int|null",
        ListParameter.line ⟨"ids", "list", ';', '\'', '/'⟩, "-- types: none",
        "--\ttype:bulk_insert", Designation.line (.plain "function"),
        ListParameter.line ⟨"größen", "csv", ',', '"', '\\'⟩] := by decide +kernel
  rw [hlines]
  exact .silent (by decide +kernel) <| .fartherDesignation (by decide +kernel) <|
    .fartherReturnType (by decide +kernel) <| .returnType <| .listParameter <|
    .silent (by decide +kernel) <| .fartherDesignation (by decide +kernel) <| .designation <|
    .listParameter .nil

/-- A header with lines of all kinds, in which two type directives and a return directive are too
    far from `begin` to count. -/
theorem ofLines_written_unpacked :
    (Designation.plain "function").Writable ∧ Text.IsRun isReturnChar "int|null" ∧
      (∀ p ∈ unpackedLists, p.Writable) ∧ (unpackedLists.map (·.name)).Nodup ∧
      Written (some (.plain "function")) (some "int|null") unpackedLists unpackedHeader ∧
      Directives.ofLines (unpackedHeader ++ "begin" :: ["-- type: none", "begin"]) =
        .ok ⟨.plain "function", some "int|null", unpackedLists⟩ := by
  have hd : (Designation.plain "function").Writable := by decide +kernel
  have ht : Text.IsRun isReturnChar "int|null" := by decide +kernel
  have hps : ∀ p ∈ unpackedLists, p.Writable := by decide +kernel
  have hnames : (unpackedLists.map (·.name)).Nodup := by decide
  exact ⟨hd, ht, hps, hnames, written_unpacked,
    ofLines_written hd ht hps hnames written_unpacked ["-- type: none", "begin"]⟩

end Directives

end StoredRoutines
