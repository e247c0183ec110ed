import VersionMatch.Expression.Acceptance
import VersionMatch.Expression.Parse
import VersionMatch.Proofs.Expression.Pieces
import VersionMatch.Proofs.Requirement

/-!
# A value accepts what its text accepts

A value asks its elements and these their simple-elements, whereas the search for a text cuts the
text first. For separable values the two ask the same questions in the same order, which
`acceptance_eq_text` states on every level: for an element, for the first element that accepts, for
the verdict of the version-string and for the selection among releases.
-/

namespace VersionMatch

open Requirement (meets meetsAll)

namespace Requirement

/-- No element of the empty text accepts a release. -/
theorem matching_element_nil (release : Text) : matchingElement release [] = none := by
  rw [matching_element_eq_find]
  have hpieces : VersionString.pieces [] = [[]] := Text.spans_of_free (by simp)
  have hsimples : Element.pieces [] = [[]] := Text.spans_of_free (by simp)
  rw [hpieces, List.find?_eq_none, List.forall_mem_singleton, meets_all_eq_all, hsimples]
  simp [meets_nil]

end Requirement

/-- A separable element accepts a release exactly if the release meets its text. -/
theorem Element.accepts_eq_meets_all {element : Element} (h : element.Separable)
    (release : Text) : element.accepts release = meetsAll release element.render := by
  rw [Requirement.meets_all_eq_all, pieces_render h, List.all_map]
  rfl

namespace VersionString

variable {versionString : VersionString}

/-- The matching element of the text of a separable version-string is the text of its matching
element. -/
theorem matching_element_render (h : versionString.Separable) (release : Text) :
    Requirement.matchingElement release versionString.render =
      (versionString.matchingElement release).map Element.render := by
  by_cases hne : versionString.elements = []
  · have hrender : versionString.render = [] := by simp [render, Text.join, hne]
    rw [hrender, Requirement.matching_element_nil, matchingElement, hne]
    rfl
  · have hsame : versionString.elements.filter (meetsAll release ∘ Element.render) =
        versionString.elements.filter fun element => element.accepts release :=
      List.filter_congr fun element helement =>
        (Element.accepts_eq_meets_all (h element helement) release).symm
    rw [Requirement.matching_element_eq_find, pieces_render h hne, List.find?_map,
      matchingElement, ← List.head?_filter, ← List.head?_filter, hsame]

/-- A separable version-string accepts a release exactly if the release is acceptable to its
text. -/
theorem accepts_eq_is_acceptable (h : versionString.Separable) (release : Text) :
    versionString.accepts release = Requirement.isAcceptable release versionString.render := by
  rw [Requirement.isAcceptable, matching_element_render h, Option.isSome_map, accepts]

/-- Selecting by a separable version-string is one pass over the releases that it accepts. -/
theorem select_eq_newest (h : versionString.Separable) (releases : List Text) :
    versionString.select? releases =
      Selection.newest? (releases.filter fun release => versionString.accepts release) := by
  simp only [accepts_eq_is_acceptable h]
  rfl

/-- What parsing returns is separable. -/
theorem separable_of_parse {text : Option Text} (h : parse text = .ok versionString) :
    versionString.Separable := by
  unfold parse at h
  split at h
  · cases h
  · split at h
    case h_1 read hread =>
      cases h
      exact separable_of_text hread
    case h_2 => cases h

/-- Parsing returns separable version-strings only. For these and all others that are separable,
acceptance by an element, the first element that accepts, acceptance as a whole and the selection
are the same for the value and for its text. -/
theorem acceptance_eq_text (versionString : VersionString) :
    (∀ text, parse text = .ok versionString → versionString.Separable) ∧
    (versionString.Separable →
      (∀ release,
        (∀ element ∈ versionString.elements,
          element.accepts release = meetsAll release element.render) ∧
        (versionString.matchingElement release = none ↔
          Requirement.matchingElement release versionString.render = none) ∧
        (∀ before element after, versionString.elements = before ++ element :: after →
          element.accepts release = true →
          (∀ earlier ∈ before, earlier.accepts release = false) →
          versionString.matchingElement release = some element ∧
          Requirement.matchingElement release versionString.render = some element.render) ∧
        versionString.accepts release =
          Requirement.isAcceptable release versionString.render) ∧
      ∀ releases, versionString.select? releases =
        Selection.newest? (releases.filter fun release => versionString.accepts release)) := by
  refine ⟨fun text => separable_of_parse, fun h => ⟨fun release => ?_, select_eq_newest h⟩⟩
  have hmatching := matching_element_render h release
  refine ⟨fun element helement => Element.accepts_eq_meets_all (h element helement) release,
    ?_, ?_, accepts_eq_is_acceptable h release⟩
  · rw [hmatching, Option.map_eq_none_iff]
  · intro before element after helements haccepts hbefore
    have hfirst : versionString.matchingElement release = some element := by
      rw [matchingElement, helements, List.find?_eq_some_iff_append]
      exact ⟨haccepts, before, after, rfl, by simpa using hbefore⟩
    exact ⟨hfirst, by rw [hmatching, hfirst, Option.map_some]⟩

/-- The value and the text `6+& 7+` agree although the first element holds an empty version-id and
the version-id of the second one ends in a modifier. -/
theorem acceptance_eq_text_malformed :
    parse (some ['6', '+']) = .ok ⟨[⟨[⟨['6'], some .atLeast⟩]⟩]⟩ ∧
    Separable ⟨[⟨[⟨['6'], some .atLeast⟩]⟩]⟩ ∧
    Separable ⟨[⟨[⟨['6'], some .atLeast⟩, ⟨[], none⟩]⟩, ⟨[⟨['7', '+'], none⟩]⟩]⟩ ∧
    Requirement.matchingElement ['8'] ['6', '+', '&', ' ', '7', '+'] = some ['7', '+'] ∧
    select? ⟨[⟨[⟨['6'], some .atLeast⟩, ⟨[], none⟩]⟩, ⟨[⟨['7', '+'], none⟩]⟩]⟩
      [['6'], ['8'], ['9']] = some ['9'] := by
  have hseparable :
      Separable ⟨[⟨[⟨['6'], some .atLeast⟩, ⟨[], none⟩]⟩, ⟨[⟨['7', '+'], none⟩]⟩]⟩ := by
    intro element helement
    rcases List.mem_pair.1 helement with rfl | rfl
    · exact ⟨by simp, by simp, by simp⟩
    · exact ⟨by simp, by simp, by simp⟩
  obtain ⟨hrelease, hselect⟩ := (acceptance_eq_text _).2 hseparable
  refine ⟨rfl, (acceptance_eq_text _).1 (some ['6', '+']) rfl, hseparable, ?_, ?_⟩
  · obtain ⟨-, -, hfirst, -⟩ := hrelease ['8']
    exact (hfirst [_] _ [] rfl (by decide) (by decide)).2
  · rw [hselect]
    decide

end VersionString

end VersionMatch
