import StoredRoutines.Proofs.Directive.Columns
import StoredRoutines.Proofs.Directive.Written

/-!
# Return types

The recogniser of return directives takes any run of word characters and vertical bars, and hands it
on as it is written. Which of them is a return type is decided by a check of its own. All return
types that pass the check are such runs, so none is lost or altered on its way there.

## Main definitions

- `DirectiveLine.Returns` — the form of a return directive
- `ReturnType.Nearest` — the return directive that counts

## Main results

- `DirectiveLine.returnType?_eq_some_iff` — the recogniser accepts exactly this form
- `ReturnType.ofHeader_eq_some_iff` — its type is the one that is read
- `ReturnType.isRun_of_allowed` — an allowed type is written with the characters of return types
- `ReturnType.allowed_reaches_check` — the types that pass, and how they are read from a header
-/

namespace StoredRoutines

open Text (IsRun)

namespace DirectiveLine

/-- A return directive: behind `-- return:` the type, with white space around it. -/
inductive Returns (line type : String) : Prop
  | directive {lead tail : List Char}
      (hline : Announces "return" line.toList (lead ++ (type.toList ++ tail)))
      (hlead : lead.all Text.isBlank = true) (htype : IsRun isReturnChar type)
      (htail : tail.all Text.isBlank = true) : Returns line type

variable {line type : String}

theorem returns_of_returnType? (h : returnType? line = some type) : Returns line type := by
  simp only [returnType?, Option.bind_eq_bind, Option.bind_eq_some_iff] at h
  obtain ⟨text, htext, h⟩ := h
  obtain ⟨lead, hlead, hsplit⟩ := Text.exists_trimStart text
  have hline := announces_of_afterComment? (by decide) htext
  rw [hsplit] at hline
  generalize Text.trimStart text = s at h hline
  split at h
  next hform =>
    rw [Bool.and_eq_true, Bool.not_eq_true'] at hform
    obtain ⟨hne, htail⟩ := hform
    obtain rfl := Option.some.inj h
    refine .directive ?_ hlead (Text.isRun_takeWhile (by simp [hne])) htail
    rwa [String.toList_ofList, List.takeWhile_append_dropWhile]
  next => cases h

theorem returnType?_of_returns (h : Returns line type) : returnType? line = some type := by
  obtain @⟨lead, tail, hline, hlead, htype, htail⟩ := h
  have htext := afterComment?_of_announces (by decide) hline
  have hstart : Text.trimStart (lead ++ (type.toList ++ tail)) = type.toList ++ tail := by
    apply Text.trimStart_append hlead
    intro c hc
    exact isBlank_of_isReturnChar (htype.head_append _ c hc)
  -- white space ends the run, since no character of a return type is white space
  have hstop : ∀ c ∈ tail.head?, isReturnChar c = false := by
    intro c hc
    by_contra hreturn
    have hblank := Text.ends_of_all htail c hc
    rw [isBlank_of_isReturnChar (by simpa using hreturn)] at hblank
    cases hblank
  obtain ⟨htake, hdrop⟩ := Text.span_append htype.all tail hstop
  have hne : type.toList.isEmpty = false := by simpa using htype.ne_empty
  simp only [returnType?, htext, hstart, htake, hdrop, hne, htail, Option.bind_eq_bind,
    Option.bind_some, Bool.not_false, Bool.and_self, if_true, String.ofList_toList]

/-- The recogniser accepts the form of a return directive and nothing else. -/
theorem returnType?_eq_some_iff : returnType? line = some type ↔ Returns line type :=
  ⟨returns_of_returnType?, returnType?_of_returns⟩

theorem returnType?_eq_none_iff : returnType? line = none ↔ ∀ type, ¬ Returns line type := by
  simp only [Option.eq_none_iff_forall_ne_some, ne_eq, returnType?_eq_some_iff]

theorem Returns.ne_begin (h : Returns line type) : line ≠ "begin" := by
  have hsome : (returnType? line).isSome := by
    rw [returnType?_of_returns h]
    rfl
  exact (carries_of_returnType? hsome).ne_begin

end DirectiveLine

open DirectiveLine

namespace ReturnType

/-- The return directive nearest to the end of a header. -/
inductive Nearest (header : List String) (type : String) : Prop
  | directive {above : List String} {line : String} {below : List String}
      (hheader : header = above ++ line :: below) (hline : Returns line type)
      (hbelow : ∀ l ∈ below, ∀ t, ¬ Returns l t) : Nearest header type

variable {header : List String} {type : String}

/-- A header has the type of its nearest directive. -/
theorem ofHeader_eq_some_iff : ofHeader header = some type ↔ Nearest header type := by
  rw [ofHeader, List.findSome?_eq_some_iff]
  constructor
  · rintro ⟨below, line, above, hsplit, hline, hnone⟩
    have hheader : header = above.reverse ++ line :: below.reverse := by
      rw [← List.reverse_reverse header, hsplit]
      simp
    refine .directive hheader (returnType?_eq_some_iff.1 hline) ?_
    intro l hl
    exact returnType?_eq_none_iff.1 (hnone l (List.mem_reverse.1 hl))
  · rintro @⟨above, line, below, rfl, hline, hbelow⟩
    refine ⟨below.reverse, line, above.reverse, by simp, returnType?_eq_some_iff.2 hline, ?_⟩
    intro l hl
    exact returnType?_eq_none_iff.2 (hbelow l (List.mem_reverse.1 hl))

/-! ### Types that pass the check -/

theorem isReturnChar_of_mem_scalars {w : String} (hw : w ∈ scalars) :
    ∀ c ∈ w.toList, isReturnChar c = true := by
  have hall : (scalars.all fun w => w.toList.all isReturnChar) = true := by decide +kernel
  exact List.all_eq_true.1 (List.all_eq_true.1 hall w hw)

/-- An allowed type is written with the characters of return types, so the recogniser takes it as a
    whole. -/
theorem isRun_of_allowed (h : Allowed type) : IsRun isReturnChar type := by
  rcases h with rfl | rfl | ⟨words, hne, hwords, rfl⟩
  · decide +kernel
  · decide +kernel
  · obtain ⟨w, rest, rfl⟩ := List.exists_cons_of_ne_nil hne
    refine ⟨fun hempty => ?_, fun c hc => ?_⟩
    · have hpieces := words_intercalate hne hwords
      rw [hempty] at hpieces
      have hw := hwords w List.mem_cons_self
      rw [← (List.cons.inj hpieces).1] at hw
      exact absurd hw (by decide)
    · rw [String.toList_intercalate] at hc
      rcases Text.mem_intercalate hc with rfl | ⟨piece, hpiece, hc⟩
      · decide
      · obtain ⟨w, hw, rfl⟩ := List.mem_map.1 hpiece
        exact isReturnChar_of_mem_scalars (hwords w hw) c hc

/-- The check accepts two words of their own, and the scalars joined by vertical bars. An accepted
    type that stands in the return directive nearest to `begin` is read as it is written, whatever
    white space surrounds it. -/
theorem allowed_reaches_check (type : String) :
    (check type = .ok () ↔ Allowed type) ∧
    (Allowed type → ∀ (above below body : List String) (line : String) (lead tail : List Char),
      Announces "return" line.toList (lead ++ (type.toList ++ tail)) →
      lead.all Text.isBlank = true → tail.all Text.isBlank = true →
      (∀ l ∈ above ++ below, l ≠ "begin") → (∀ l ∈ below, ∀ t, ¬ Returns l t) →
        header? (above ++ line :: below ++ "begin" :: body) = some (above ++ line :: below) ∧
        ofHeader (above ++ line :: below) = some type ∧
        ∀ d, Directives.ofLines (above ++ line :: below ++ "begin" :: body) = .ok d →
          d.returnType = if d.designation.returnsValue then some type else none) := by
  refine ⟨check_eq_ok_iff, ?_⟩
  intro hallowed above below body line lead tail hline hlead htail hbegin hbelow
  have hreturns : Returns line type := .directive hline hlead (isRun_of_allowed hallowed) htail
  have hheader : header? (above ++ line :: below ++ "begin" :: body) =
      some (above ++ line :: below) := by
    -- no line above `begin` is `begin` itself, and the directive is not either
    apply header?_append
    intro l hl
    rcases List.mem_append.1 hl with habove | hl
    · exact hbegin l (List.mem_append_left _ habove)
    · rcases List.mem_cons.1 hl with rfl | hl
      · exact hreturns.ne_begin
      · exact hbegin l (List.mem_append_right _ hl)
  have hnearest : Nearest (above ++ line :: below) type := .directive rfl hreturns hbelow
  have hread := ofHeader_eq_some_iff.2 hnearest
  refine ⟨hheader, hread, fun d hd => ?_⟩
  obtain ⟨header, hheader', -, -, hreturn⟩ := Directives.ofLines_eq_ok hd
  obtain rfl := Option.some.inj (hheader.symm.trans hheader')
  rw [hreturn, Directives.returnTypeFor, hread]
  rfl

/-- A combination that stands below another return directive, with white space of several kinds. -/
theorem allowed_reaches_check_nullable :
    Allowed "int|null" ∧ check "int|null" = .ok () ∧
    ofHeader ["-- return: bool", " --  return:\t int|null\r", "-- type: function"] =
      some "int|null" ∧
    Directives.ofLines ["-- return: bool", " --  return:\t int|null\r", "-- type: function",
        "begin", "end"] = .ok ⟨.plain "function", some "int|null", []⟩ := by
  have hallowed : Allowed "int|null" :=
    .inr (.inr ⟨["int", "null"], by decide, by decide, by decide +kernel⟩)
  obtain ⟨hcheck, hread⟩ := allowed_reaches_check "int|null"
  have hline : Announces "return" " --  return:\t int|null\r".toList
      (['\t', ' '] ++ ("int|null".toList ++ ['\r'])) :=
    announces_of_afterComment? (by decide) (by decide +kernel)
  have hbelow : ∀ l ∈ ["-- type: function"], ∀ t, ¬ Returns l t := by
    intro l hl
    rw [List.mem_singleton.1 hl]
    exact returnType?_eq_none_iff.1 (by decide +kernel)
  obtain ⟨-, hheader, -⟩ := hread hallowed ["-- return: bool"] ["-- type: function"] ["end"]
    " --  return:\t int|null\r" ['\t', ' '] ['\r'] hline (by decide) (by decide) (by decide) hbelow
  exact ⟨hallowed, hcheck.2 hallowed, hheader, by decide +kernel⟩

end ReturnType

end StoredRoutines
