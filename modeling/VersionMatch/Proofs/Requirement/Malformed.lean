import VersionMatch.Proofs.Expression.Acceptance

/-!
# Malformed texts

Matching answers for every text, so it also has to answer for those that are no version-strings. A
piece that is empty or a modifier on its own is met by no release, and since a text always has a
piece, no release is accepted for want of anything to meet. What follows is collected in
`malformed_text_accepts_nothing`: the malformed elements of a text accept nothing, and its empty
elements can be deleted without a difference to what it accepts.
-/

namespace VersionMatch

/-- The text of a version-string without the empty elements: there are no spaces at its ends and no
two in a row. -/
def VersionString.withoutEmptyElements (text : Text) : Text :=
  Text.join [' '] ((pieces text).filter fun element => !element.isEmpty)

namespace Requirement

variable {release text element simple : Text}

/-- A simple-element that has no version-id, with or without a modifier. -/
def IsBare (simple : Text) : Prop :=
  simple = [] ∨ simple = ['+'] ∨ simple = ['*']

/-! ## What is met by nothing and what meets nothing -/

/-- No release meets a simple-element without a version-id. -/
theorem meets_bare (release : Text) (h : IsBare simple) : meets release simple = false := by
  have hmodifier : ∀ modifier : Modifier, meets release [modifier.symbol] = false := by
    intro modifier
    rw [Bool.eq_false_iff, ← List.nil_append [modifier.symbol], ne_eq, meets_modified_iff]
    exact fun h => h.2.1 rfl
  rcases h with rfl | rfl | rfl
  · exact meets_nil release
  · exact hmodifier .atLeast
  · exact hmodifier .prefixMatch

/-- No release meets an element with such a simple-element. -/
theorem meets_all_of_bare (release : Text) (hpiece : simple ∈ Element.pieces element)
    (h : IsBare simple) : meetsAll release element = false := by
  rw [meets_all_eq_all, List.all_eq_false]
  exact ⟨simple, hpiece, by rw [meets_bare release h, Bool.not_eq_true]⟩

/-- The empty element has an empty simple-element. -/
theorem meets_all_nil (release : Text) : meetsAll release [] = false :=
  meets_all_of_bare release (List.mem_singleton_self []) (.inl rfl)

/-- The empty release meets nothing. Every element has a simple-element for it to fail on. -/
theorem not_meets_all_of_nil (element : Text) : meetsAll [] element = false := by
  obtain ⟨simple, hpiece⟩ := List.exists_mem_of_ne_nil _ (Text.spans_ne_nil (· == '&') element)
  rw [meets_all_eq_all, List.all_eq_false]
  exact ⟨simple, hpiece, by simp [meets]⟩

theorem matching_element_of_nil (text : Text) : matchingElement [] text = none := by
  rw [matching_element_eq_find, List.find?_eq_none]
  intro element _
  rw [not_meets_all_of_nil, Bool.not_eq_true]

/-- The matching element is a piece of the text, and none of its own pieces lacks a version-id. -/
theorem well_formed_of_matching_element (h : matchingElement release text = some element) :
    element ∈ VersionString.pieces text ∧ element ≠ [] ∧ ' ' ∉ element ∧
      ∀ simple ∈ Element.pieces element, ¬ IsBare simple := by
  rw [matching_element_eq_find] at h
  have hpiece := List.mem_of_find?_eq_some h
  have hmeets := List.find?_some h
  have hbare : ∀ simple ∈ Element.pieces element, ¬ IsBare simple := by
    intro simple hsimple hbare
    rw [meets_all_of_bare release hsimple hbare] at hmeets
    cases hmeets
  refine ⟨hpiece, ?_, Text.not_mem_of_mem_spans hpiece, hbare⟩
  rintro rfl
  exact hbare [] (List.mem_singleton_self []) (.inl rfl)

/-! ## Deleting empty elements -/

/-- Empty elements can be deleted, since the search passes over them anyway. -/
theorem matching_element_without_empty_elements (release text : Text) :
    matchingElement release (VersionString.withoutEmptyElements text) =
      matchingElement release text := by
  have hskip : ∀ element : Text,
      decide ((!element.isEmpty) = true ∧ meetsAll release element = true) =
        meetsAll release element := by
    intro element
    cases element with
    | nil => simp [meets_all_nil]
    | cons c rest => simp
  have hfind : ((VersionString.pieces text).filter fun element => !element.isEmpty).find?
      (meetsAll release) = matchingElement release text := by
    simp only [matching_element_eq_find, List.find?_filter, hskip]
  by_cases hnil : ((VersionString.pieces text).filter fun element => !element.isEmpty) = []
  · -- The text of no elements is that of a single empty one, which accepts nothing either.
    rw [← hfind, VersionString.withoutEmptyElements, hnil]
    exact matching_element_nil release
  · have hpieces : VersionString.pieces (VersionString.withoutEmptyElements text) =
        (VersionString.pieces text).filter fun element => !element.isEmpty := by
      refine Text.spans_join ?_ hnil
      intro element helement
      exact Text.not_mem_of_mem_spans (List.mem_of_mem_filter helement)
    rw [← hfind, matching_element_eq_find, hpieces]

/-- Of any text, the elements with a piece that is empty or a modifier on its own accept no release,
and no text accepts the empty or absent release. So the matching element is a piece of the text that
is not empty and has no such piece. The text without its empty elements has the same matching
element for each release, and the same acceptable releases and selection for each list. -/
theorem malformed_text_accepts_nothing (release text : Option Text) :
    (∀ element simple, simple ∈ Element.pieces element → IsBare simple →
      Query.meetsAll release (some element) = false) ∧
    (Text.orEmpty release = [] → Query.isAcceptable release text = false) ∧
    (∀ element, Query.matchingElement release text = some element →
      element ∈ VersionString.pieces (Text.orEmpty text) ∧ element ≠ [] ∧ ' ' ∉ element ∧
        ∀ simple ∈ Element.pieces element, ¬ IsBare simple) ∧
    Query.matchingElement release
        (some (VersionString.withoutEmptyElements (Text.orEmpty text))) =
      Query.matchingElement release text ∧
    ∀ releases,
      Query.acceptable releases
          (some (VersionString.withoutEmptyElements (Text.orEmpty text))) =
        Query.acceptable releases text ∧
      Query.select? releases
          (some (VersionString.withoutEmptyElements (Text.orEmpty text))) =
        Query.select? releases text := by
  have hacceptable : ∀ releases,
      Selection.acceptable releases (VersionString.withoutEmptyElements (Text.orEmpty text)) =
        Selection.acceptable releases (Text.orEmpty text) := by
    intro releases
    simp only [Selection.acceptable, isAcceptable, matching_element_without_empty_elements]
  refine ⟨?_, ?_, ?_, matching_element_without_empty_elements _ _, ?_⟩
  · intro element simple hpiece hbare
    exact meets_all_of_bare (Text.orEmpty release) hpiece hbare
  · intro hnil
    rw [Query.isAcceptable, Query.matchingElement, hnil, matching_element_of_nil]
    rfl
  · intro element h
    exact well_formed_of_matching_element h
  · intro releases
    refine ⟨hacceptable _, ?_⟩
    show Selection.newest? (Selection.acceptable _ _) = Selection.newest? (Selection.acceptable _ _)
    exact congrArg Selection.newest? (hacceptable _)

/-- No release meets `2&+`, and no text accepts an absent release. The text ` 2&+  2* ` has three
empty elements. It accepts `2.1` by the same element as `2&+ 2*`, and selects the same among releases
of which one is absent. -/
theorem malformed_text_accepts_nothing_spaces :
    Query.meetsAll (some ['2', '.', '1']) (some ['2', '&', '+']) = false ∧
    Query.isAcceptable none (some [' ', '2', '&', '+', ' ', ' ', '2', '*', ' ']) = false ∧
    (∀ simple ∈ Element.pieces ['2', '*'], ¬ IsBare simple) ∧
    Query.matchingElement (some ['2', '.', '1']) (some ['2', '&', '+', ' ', '2', '*']) =
      some ['2', '*'] ∧
    Query.select? [none, some ['2', '.', '1']] (some ['2', '&', '+', ' ', '2', '*']) =
      some ['2', '.', '1'] := by
  have hmatching : Query.matchingElement (some ['2', '.', '1'])
      (some [' ', '2', '&', '+', ' ', ' ', '2', '*', ' ']) = some ['2', '*'] := by decide
  have hselect : Query.select? [none, some ['2', '.', '1']]
      (some [' ', '2', '&', '+', ' ', ' ', '2', '*', ' ']) = some ['2', '.', '1'] := by decide
  obtain ⟨hbare, -, hpieces, hsame, hlist⟩ := malformed_text_accepts_nothing
    (some ['2', '.', '1']) (some [' ', '2', '&', '+', ' ', ' ', '2', '*', ' '])
  obtain ⟨-, habsent, -⟩ := malformed_text_accepts_nothing none
    (some [' ', '2', '&', '+', ' ', ' ', '2', '*', ' '])
  obtain ⟨-, -, -, hsound⟩ := hpieces ['2', '*'] hmatching
  exact ⟨hbare _ ['+'] (by decide) (.inr (.inl rfl)), habsent rfl, hsound,
    hsame.trans hmatching, (hlist _).2.trans hselect⟩

end Requirement

end VersionMatch
