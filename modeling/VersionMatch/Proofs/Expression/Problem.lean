import VersionMatch.Proofs.Expression.Grammar
import VersionMatch.Query

/-!
# A text without a problem is one of the grammar

The checks never parse by the grammar: they cut the text, take off one modifier and look for
misplaced separators in the version-id as a whole. `no_empty_component_iff` says what these looks
amount to, namely that no component is empty. From there the agreement with the grammar is lifted
through simple-elements and elements, up to `valid_iff_derivable`.
-/

namespace VersionMatch

open Grammar

/-! ## Version-ids -/

namespace VersionId

theorem has_adjacent_separators_cons (c d : Char) (rest : Text) :
    hasAdjacentSeparators (c :: d :: rest) =
      (isSeparator c && isSeparator d || hasAdjacentSeparators (d :: rest)) := by
  simp [hasAdjacentSeparators]

theorem has_trailing_separator_cons (c d : Char) (rest : Text) :
    hasTrailingSeparator (c :: d :: rest) = hasTrailingSeparator (d :: rest) := by
  simp [hasTrailingSeparator, List.getLast?_cons]

theorem components_cons_separator {c : Char} (text : Text) (h : isSeparator c = true) :
    components (c :: text) = [] :: components text :=
  Text.spans_cons_delimiter text h

/-- A character that is no separator makes the first component non-empty and leaves the others
as they are. -/
theorem components_cons_other {c : Char} (text : Text) (h : isSeparator c = false) :
    ∃ component, components (c :: text) = (c :: component) :: (components text).tail := by
  obtain ⟨component, others, hcomponents⟩ :=
    List.exists_cons_of_ne_nil (Text.spans_ne_nil isSeparator text)
  refine ⟨component, ?_⟩
  rw [components, components, Text.spans_cons_other text h, hcomponents]
  rfl

/-- The first component is empty exactly for the empty text and behind a leading separator. -/
theorem no_empty_component_iff_tail {text : Text} :
    [] ∉ components text ↔
      text ≠ [] ∧ hasLeadingSeparator text = false ∧ [] ∉ (components text).tail := by
  cases text with
  | nil => simp [components, Text.spans_of_free]
  | cons c rest =>
      cases hc : isSeparator c with
      | true => simp [components_cons_separator rest hc, hasLeadingSeparator, hc]
      | false =>
          obtain ⟨component, hcomponents⟩ := components_cons_other rest hc
          simp [hcomponents, hasLeadingSeparator, hc]

/-- A later component is empty exactly if it stands behind a trailing separator or between two
adjacent ones. -/
theorem no_empty_later_component_iff {text : Text} :
    [] ∉ (components text).tail ↔
      hasTrailingSeparator text = false ∧ hasAdjacentSeparators text = false := by
  induction text with
  | nil => decide
  | cons c rest ih =>
      cases hc : isSeparator c with
      | true =>
          -- The component after this separator is the first one of the rest.
          rw [components_cons_separator rest hc, List.tail_cons, no_empty_component_iff_tail, ih]
          cases rest with
          | nil => simp [hasTrailingSeparator, hc]
          | cons d rest =>
              rw [has_trailing_separator_cons, has_adjacent_separators_cons, hc]
              simp only [ne_eq, reduceCtorEq, not_false_eq_true, true_and, hasLeadingSeparator,
                List.head?_cons, Option.any_some, Bool.true_and, Bool.or_eq_false_iff]
              exact and_left_comm
      | false =>
          -- The character joins the first component and leaves the later ones as they are.
          obtain ⟨component, hcomponents⟩ := components_cons_other rest hc
          rw [hcomponents, List.tail_cons, ih]
          cases rest with
          | nil => simp [hasTrailingSeparator, hasAdjacentSeparators, hc]
          | cons d rest =>
              rw [has_trailing_separator_cons, has_adjacent_separators_cons, hc, Bool.false_and,
                Bool.false_or]

/-- No component of a text is empty exactly if the text is not empty and has no separator at its
beginning, at its end, or next to another one. -/
theorem no_empty_component_iff {text : Text} :
    [] ∉ components text ↔
      text ≠ [] ∧ hasLeadingSeparator text = false ∧ hasTrailingSeparator text = false ∧
        hasAdjacentSeparators text = false := by
  rw [no_empty_component_iff_tail, no_empty_later_component_iff]

theorem forbidden_eq_none_iff {versionId : Text} :
    forbidden? versionId = none ↔ ∀ c ∈ versionId, c ∉ forbidden := by
  simp only [forbidden?, List.find?_eq_none, List.contains_iff_mem]
  exact ⟨fun h c hc hforbidden => h c hforbidden hc, fun h c hforbidden hc => h c hc hforbidden⟩

/-- A version-id has no problem exactly if no component is empty and no character is
forbidden. -/
theorem problem_eq_none_iff {simple versionId : Text} :
    problem? simple versionId = none ↔
      [] ∉ components versionId ∧ ∀ c ∈ versionId, c ∉ forbidden := by
  rw [no_empty_component_iff, ← forbidden_eq_none_iff]
  unfold problem?
  cases hnil : versionId.isEmpty with
  | true => simp [List.isEmpty_iff.1 hnil]
  | false =>
      have hne := List.isEmpty_eq_false_iff.1 hnil
      cases forbidden? versionId with
      | some c => simp
      | none =>
          cases hasLeadingSeparator versionId <;> cases hasTrailingSeparator versionId <;>
            cases hasAdjacentSeparators versionId <;> simp [hne]

/-- The components of a text are strings exactly if none of them is empty and no character of the
text is forbidden. -/
theorem is_version_id_iff_components {versionId : Text} :
    IsVersionId versionId ↔
      [] ∉ components versionId ∧ ∀ c ∈ versionId, c ∉ forbidden := by
  rw [is_version_id_iff]
  constructor
  · intro h
    refine ⟨fun hnil => (is_string_iff.1 (h [] hnil)).1 rfl, ?_⟩
    exact IsVersionId.not_mem (is_version_id_iff.2 h)
  · intro ⟨hne, hforbidden⟩ component hcomponent
    refine is_string_iff.2 ⟨fun hnil => hne (hnil ▸ hcomponent), ?_⟩
    intro c hc
    obtain ⟨hmem, hother⟩ :=
      ((Text.cut_spans isSeparator versionId).mem_iff c).1 ⟨component, hcomponent, hc⟩
    exact is_char_iff.2 ⟨hother, hforbidden c hmem⟩

end VersionId

/-! ## Simple-elements, elements and version-strings -/

theorem SimpleElement.problem_eq_none_iff (text : Text) :
    SimpleElement.problem? text = none ↔ IsSimpleElement text := by
  rw [is_simple_element_iff]
  unfold SimpleElement.problem?
  constructor
  · intro h
    cases hread : SimpleElement.ofText? text with
    | none => simp [hread] at h
    | some simple =>
        simp only [hread, VersionId.problem_eq_none_iff] at h
        exact ⟨simple, VersionId.is_version_id_iff_components.2 h,
          (SimpleElement.of_text_eq_some_iff.1 hread).2.1⟩
  · intro ⟨simple, hid, hrender⟩
    subst hrender
    simp only [of_text_render hid, VersionId.problem_eq_none_iff]
    exact VersionId.is_version_id_iff_components.1 hid

theorem Element.problem_eq_none_iff (text : Text) :
    Element.problem? text = none ↔ IsElement text := by
  simp only [is_element_iff, ← SimpleElement.problem_eq_none_iff]
  -- The empty text is rejected by a check of its own, and its only piece would be as well.
  cases text with
  | nil => decide
  | cons c rest => simp [Element.problem?]

theorem VersionString.problem_eq_none_iff (text : Text) :
    VersionString.problem? text = none ↔ IsVersionString text := by
  simp only [is_version_string_iff, ← Element.problem_eq_none_iff]
  cases text with
  | nil => decide
  | cons c rest => simp [VersionString.problem?]

/-- A check that rejects the empty text accepts exactly the texts of its symbol that are there. -/
theorem is_none_problem_iff {problem? : Text → Option Problem} {Symbol : Text → Prop}
    (hproblem : ∀ text, problem? text = none ↔ Symbol text) (hempty : problem? [] ≠ none)
    (text : Option Text) :
    (problem? (Text.orEmpty text)).isNone = true ↔
      ∃ present, text = some present ∧ Symbol present := by
  rw [Option.isNone_iff_eq_none]
  cases text with
  | none => simp [Text.orEmpty, hempty]
  | some present => simp [Text.orEmpty, hproblem]

/-- The checks accept exactly the texts that the grammar derives and no absent text. In
particular, a valid element holds no space, and a valid simple-element no ampersand either. -/
theorem valid_iff_derivable (text : Option Text) :
    (Query.isValid text = true ↔ ∃ present, text = some present ∧ IsVersionString present) ∧
    (Query.isValidElement text = true ↔ ∃ present, text = some present ∧ IsElement present) ∧
    (Query.isValidSimpleElement text = true ↔
      ∃ present, text = some present ∧ IsSimpleElement present) ∧
    (∀ present, IsElement present → ' ' ∉ present) ∧
    ∀ present, IsSimpleElement present → ' ' ∉ present ∧ '&' ∉ present := by
  refine ⟨?_, ?_, ?_, fun present h hspace => h.free ' ' hspace rfl, ?_⟩
  · exact is_none_problem_iff VersionString.problem_eq_none_iff (by decide) text
  · exact is_none_problem_iff Element.problem_eq_none_iff (by decide) text
  · exact is_none_problem_iff SimpleElement.problem_eq_none_iff (by decide) text
  · intro present h
    exact ⟨fun hspace => (h.free ' ' hspace).1 rfl, fun hampersand => (h.free '&' hampersand).2 rfl⟩

end VersionMatch
