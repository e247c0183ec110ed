import VersionMatch.Expression.Acceptance
import VersionMatch.Expression.Parse
import VersionMatch.Proofs.Expression.Pieces
import VersionMatch.Proofs.Expression.Problem

/-!
# Parsing inverts rendering

A value is `WellFormed` if it has an element, each of its elements a simple-element, and each of
these a version-id of the grammar. The texts of the grammar are the texts of such values, and
reading such a text gives the value back, on every level of the format. `parse_ok_iff` puts the
two together: parsing succeeds exactly on the texts of well-formed values, each of which it
returns.
-/

namespace VersionMatch

open Grammar

/-- An element is well-formed if it has a simple-element and all their version-ids are of the
grammar. -/
structure Element.WellFormed (element : Element) : Prop where
  ne_nil : element.simpleElements ≠ []
  version_ids : ∀ simple ∈ element.simpleElements, IsVersionId simple.versionId

/-- A version-string is well-formed if it has an element and all its elements are well-formed. -/
structure VersionString.WellFormed (versionString : VersionString) : Prop where
  ne_nil : versionString.elements ≠ []
  elements : ∀ element ∈ versionString.elements, element.WellFormed

/-! ## Lists of items -/

section Items

variable {α : Type} {render : α → Text}

/-- Where the items of a rule are the texts of values, the texts with a derivation are the joined
texts of these values. -/
theorem separated_iff_join {delimiter : Char} {Item : Text → Prop} {Valid : α → Prop}
    (hitem : ∀ text, Item text ↔ ∃ value, Valid value ∧ render value = text) {text : Text} :
    Separated (· == delimiter) Item text ↔
      ∃ values, values ≠ [] ∧ (∀ value ∈ values, Valid value) ∧
        Text.join [delimiter] (values.map render) = text := by
  constructor
  · intro h
    induction h with
    | one item h =>
        obtain ⟨value, hvalid, hrender⟩ := (hitem item).1 h
        exact ⟨[value], by simp, by simpa using hvalid, by simpa [Text.join] using hrender⟩
    | more item selected rest h hselected _ ih =>
        obtain ⟨value, hvalid, hrender⟩ := (hitem item).1 h
        obtain ⟨values, hne, hvalues, hjoin⟩ := ih
        refine ⟨value :: values, by simp, List.forall_mem_cons.2 ⟨hvalid, hvalues⟩, ?_⟩
        have hmap : values.map render ≠ [] := by simpa using hne
        rw [List.map_cons, Text.join, List.intercalate_cons_of_ne_nil hmap, ← hjoin, hrender,
          beq_iff_eq.1 hselected]
        simp [Text.join]
  · rintro ⟨values, hne, hvalues, hjoin⟩
    subst hjoin
    induction values with
    | nil => exact absurd rfl hne
    | cons value values ih =>
        rw [List.forall_mem_cons] at hvalues
        have hfirst : Item (render value) := (hitem _).2 ⟨value, hvalues.1, rfl⟩
        by_cases hlast : values = []
        · subst hlast
          simpa [Text.join] using Separated.one _ hfirst
        · have hmap : values.map render ≠ [] := by simpa using hlast
          rw [List.map_cons, Text.join, List.intercalate_cons_of_ne_nil hmap]
          simpa [Text.join] using
            Separated.more _ delimiter _ hfirst (by simp) (ih hlast hvalues.2)

/-- Reading the texts of values that are read back one by one gives back the values. -/
theorem map_m_render {read : Text → Option α} {values : List α}
    (hread : ∀ value ∈ values, read (render value) = some value) :
    (values.map render).mapM read = some values := by
  induction values with
  | nil => rfl
  | cons value values ih =>
      rw [List.forall_mem_cons] at hread
      simp [hread.1, ih hread.2]

end Items

/-! ## Elements -/

/-- The elements of the grammar are the texts of well-formed elements. -/
theorem Element.is_element_iff_render {text : Text} :
    IsElement text ↔ ∃ element : Element, element.WellFormed ∧ element.render = text := by
  rw [IsElement, separated_iff_join fun _ => is_simple_element_iff]
  constructor
  · intro ⟨simples, hne, hids, hrender⟩
    exact ⟨⟨simples⟩, ⟨hne, hids⟩, hrender⟩
  · intro ⟨⟨simples⟩, ⟨hne, hids⟩, hrender⟩
    exact ⟨simples, hne, hids, hrender⟩

/-- The version-ids of the grammar hold no delimiter. -/
theorem Element.WellFormed.separable {element : Element} (h : element.WellFormed) :
    element.Separable := by
  refine ⟨h.ne_nil, ?_, ?_⟩
  · intro simple hsimple hspace
    exact (h.version_ids simple hsimple).not_mem ' ' hspace (by decide)
  · intro simple hsimple hampersand
    exact (h.version_ids simple hsimple).not_mem '&' hampersand (by decide)

/-- Reading the text of a well-formed element gives it back. -/
theorem Element.of_text_render {element : Element} (h : element.WellFormed) :
    Element.ofText? element.render = some element := by
  rw [Element.ofText?, Element.pieces_render h.separable,
    map_m_render fun simple hsimple => Grammar.of_text_render (h.version_ids simple hsimple)]
  rfl

/-! ## Version-strings -/

namespace VersionString

/-- The version-strings of the grammar are the texts of well-formed values. -/
theorem is_version_string_iff_render {text : Text} :
    IsVersionString text ↔
      ∃ versionString : VersionString,
        versionString.WellFormed ∧ versionString.render = text := by
  rw [IsVersionString, separated_iff_join fun _ => Element.is_element_iff_render]
  constructor
  · intro ⟨elements, hne, helements, hrender⟩
    exact ⟨⟨elements⟩, ⟨hne, helements⟩, hrender⟩
  · intro ⟨⟨elements⟩, ⟨hne, helements⟩, hrender⟩
    exact ⟨elements, hne, helements, hrender⟩

/-- Reading the text of a well-formed version-string gives it back. -/
theorem of_text_render {versionString : VersionString} (h : versionString.WellFormed) :
    ofText? versionString.render = some versionString := by
  have hseparable : versionString.Separable :=
    fun element helement => (h.elements element helement).separable
  rw [ofText?, pieces_render hseparable h.ne_nil,
    map_m_render fun element helement => Element.of_text_render (h.elements element helement)]
  rfl

/-- Parsing the text of a well-formed version-string gives it back. -/
theorem parse_render {versionString : VersionString} (h : versionString.WellFormed) :
    parse (some versionString.render) = .ok versionString := by
  have hproblem : problem? versionString.render = none :=
    (problem_eq_none_iff _).2 (is_version_string_iff_render.2 ⟨versionString, h, rfl⟩)
  simp [parse, Text.orEmpty, hproblem, of_text_render h]

/-- What parsing returns is well-formed and renders as the text. -/
theorem well_formed_of_parse {text : Text} {versionString : VersionString}
    (h : parse (some text) = .ok versionString) :
    versionString.WellFormed ∧ versionString.render = text := by
  cases hproblem : problem? text with
  | some problem => simp [parse, Text.orEmpty, hproblem] at h
  | none =>
      obtain ⟨parsed, hwellFormed, rfl⟩ :=
        is_version_string_iff_render.1 ((problem_eq_none_iff text).1 hproblem)
      rw [parse_render hwellFormed] at h
      cases h
      exact ⟨hwellFormed, rfl⟩

/-- Parsing succeeds exactly on the texts of well-formed version-strings, and returns the one that
the text renders. The components of its version-ids are not empty and, with the separators of the
version-id between them, give it back. -/
theorem parse_ok_iff (text : Option Text) (versionString : VersionString) :
    (parse text = .ok versionString ↔
      versionString.WellFormed ∧ text = some versionString.render) ∧
    (versionString.WellFormed →
      ∀ element ∈ versionString.elements, ∀ simple ∈ element.simpleElements,
        (∀ component ∈ simple.components, component ≠ []) ∧
        Text.interleave simple.components (simple.versionId.filter VersionId.isSeparator) =
          simple.versionId) := by
  constructor
  · constructor
    · intro h
      have hproblem : problem? (Text.orEmpty text) = none := by
        cases hproblem : problem? (Text.orEmpty text) with
        | none => rfl
        | some problem => simp [parse, hproblem] at h
      obtain ⟨present, htext, hderived⟩ :=
        (is_none_problem_iff problem_eq_none_iff (by decide) text).1 (by simp [hproblem])
      obtain ⟨parsed, hwellFormed, hrender⟩ := is_version_string_iff_render.1 hderived
      rw [htext, ← hrender, parse_render hwellFormed] at h
      cases h
      exact ⟨hwellFormed, by rw [htext, hrender]⟩
    · intro ⟨hwellFormed, htext⟩
      rw [htext, parse_render hwellFormed]
  · intro h element helement simple hsimple
    have hid := (h.elements element helement).version_ids simple hsimple
    refine ⟨?_, Text.interleave_spans VersionId.isSeparator simple.versionId⟩
    intro component hcomponent hnil
    exact (VersionId.is_version_id_iff_components.1 hid).1 (hnil ▸ hcomponent)

end VersionString

end VersionMatch
