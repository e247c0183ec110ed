import VersionMatch.Proofs.Requirement

/-!
# Unions and intersections of texts

A space between two texts makes the union of what they accept, an ampersand their intersection,
whatever the texts are. This holds since a text is cut at a delimiter in its middle into the pieces
of the two sides. `acceptance_composition` adds that only the set of the pieces counts for whether
a release is acceptable, so that elements, and simple-elements inside of an element, may change
places and be repeated. Which element accepts first depends on their order, of course.
-/

namespace VersionMatch.Requirement

variable {release text : Text}

/-! ## Two texts with a delimiter between them -/

/-- The first element that accepts is one of the left side, or else one of the right side. -/
theorem matching_element_append (release left right : Text) :
    matchingElement release (left ++ ' ' :: right) =
      (matchingElement release left).or (matchingElement release right) := by
  have hpieces : VersionString.pieces (left ++ ' ' :: right) =
      VersionString.pieces left ++ VersionString.pieces right :=
    Text.spans_append_cons left right rfl
  simp only [matching_element_eq_find, hpieces, List.find?_append]

/-- A release is acceptable to a union if it is to one of the two sides. -/
theorem is_acceptable_append (release left right : Text) :
    isAcceptable release (left ++ ' ' :: right) =
      (isAcceptable release left || isAcceptable release right) := by
  simp only [isAcceptable, matching_element_append, Option.isSome_or]

/-- A release meets an intersection if it meets both sides. -/
theorem meets_all_append (release left right : Text) :
    meetsAll release (left ++ '&' :: right) =
      (meetsAll release left && meetsAll release right) := by
  have hpieces : Element.pieces (left ++ '&' :: right) =
      Element.pieces left ++ Element.pieces right :=
    Text.spans_append_cons left right rfl
  simp only [meets_all_eq_all, hpieces, List.all_append]

/-! ## The set of the pieces -/

/-- A release is acceptable to a text if it meets some element. -/
theorem is_acceptable_iff :
    isAcceptable release text = true ↔
      ∃ element ∈ VersionString.pieces text, meetsAll release element = true := by
  rw [isAcceptable, matching_element_eq_find, List.find?_isSome]

/-- A text made of the pieces of an element, in any order and number, is met alike if none of them
is left out. -/
theorem meets_all_join {element : Text} {simples : List Text}
    (h : ∀ simple, simple ∈ simples ↔ simple ∈ Element.pieces element) :
    meetsAll release (Text.join ['&'] simples) = meetsAll release element := by
  have hpieces : Element.pieces (Text.join ['&'] simples) = simples :=
    Text.spans_join_of_mem_iff h
  rw [Bool.eq_iff_iff, meets_all_eq_all, meets_all_eq_all, hpieces, List.all_eq_true,
    List.all_eq_true]
  simp only [h]

/-- A text made of the elements of a version-string, in any order and number, accepts the same
releases if none of them is left out. -/
theorem is_acceptable_join {elements : List Text}
    (h : ∀ element, element ∈ elements ↔ element ∈ VersionString.pieces text) :
    isAcceptable release (Text.join [' '] elements) = isAcceptable release text := by
  have hpieces : VersionString.pieces (Text.join [' '] elements) = elements :=
    Text.spans_join_of_mem_iff h
  rw [Bool.eq_iff_iff, is_acceptable_iff, is_acceptable_iff, hpieces]
  simp only [h]

/-- Putting together the pieces of an element brings no space into it. -/
theorem space_not_mem_join {element : Text} {simples : List Text}
    (h : ∀ simple, simple ∈ simples ↔ simple ∈ Element.pieces element)
    (hspace : ' ' ∉ element) : ' ' ∉ Text.join ['&'] simples := by
  intro hmem
  -- A space would stand in one of the pieces, and these are pieces of the element.
  have hcut := Text.cut_iff.2 (Text.spans_join_of_mem_iff h)
  obtain ⟨simple, hsimple, hc⟩ := (hcut.mem_iff ' ').2 ⟨hmem, by decide⟩
  have hcutElement := Text.cut_spans (· == '&') element
  exact hspace ((hcutElement.mem_iff ' ').1 ⟨simple, (h simple).1 hsimple, hc⟩).1

/-- An element whose simple-elements change places or are repeated leaves the acceptable releases
of the version-string as they are. -/
theorem is_acceptable_join_element {before after simples : List Text} {element : Text}
    (htext : VersionString.pieces text = before ++ element :: after)
    (h : ∀ simple, simple ∈ simples ↔ simple ∈ Element.pieces element) :
    isAcceptable release (Text.join [' '] (before ++ Text.join ['&'] simples :: after)) =
      isAcceptable release text := by
  have hfree : ∀ piece ∈ VersionString.pieces text, ' ' ∉ piece :=
    fun piece hpiece => Text.not_mem_of_mem_spans hpiece
  simp only [htext, List.forall_mem_append, List.forall_mem_cons] at hfree
  obtain ⟨hbefore, helement, hafter⟩ := hfree
  have hpieces : VersionString.pieces
      (Text.join [' '] (before ++ Text.join ['&'] simples :: after)) =
      before ++ Text.join ['&'] simples :: after := by
    refine Text.spans_join ?_ (by simp)
    simp only [List.forall_mem_append, List.forall_mem_cons]
    exact ⟨hbefore, space_not_mem_join h helement, hafter⟩
  rw [Bool.eq_iff_iff, is_acceptable_iff, is_acceptable_iff, hpieces, htext]
  simp only [List.mem_append, List.mem_cons, or_and_right, exists_or, exists_eq_left,
    meets_all_join h]

/-- A space makes a union and an ampersand an intersection, of any two texts, and the matching
element of a union is that of the left side if there is one. Hence a release is acceptable to the
same texts however their elements, or the simple-elements of one of them, are ordered and
repeated. -/
theorem acceptance_composition (release s t : Text) :
    matchingElement release (s ++ ' ' :: t) =
      (matchingElement release s).or (matchingElement release t) ∧
    isAcceptable release (s ++ ' ' :: t) = (isAcceptable release s || isAcceptable release t) ∧
    meetsAll release (s ++ '&' :: t) = (meetsAll release s && meetsAll release t) ∧
    (∀ elements, (∀ element, element ∈ elements ↔ element ∈ VersionString.pieces s) →
      isAcceptable release (Text.join [' '] elements) = isAcceptable release s) ∧
    ∀ before element after simples, VersionString.pieces s = before ++ element :: after →
      (∀ simple, simple ∈ simples ↔ simple ∈ Element.pieces element) →
      isAcceptable release (Text.join [' '] (before ++ Text.join ['&'] simples :: after)) =
        isAcceptable release s :=
  ⟨matching_element_append release s t, is_acceptable_append release s t,
    meets_all_append release s t, fun _ => is_acceptable_join,
    fun _ _ _ _ => is_acceptable_join_element⟩

/-- The text ` 1.2+&1*  3` has two empty elements. It accepts `1.3`, and so do the texts in which its
elements change places, or the simple-elements of `1.2+&1*` do and one is repeated. -/
theorem acceptance_composition_empty_elements :
    isAcceptable ['1', '.', '3'] [' ', '1', '.', '2', '+', '&', '1', '*', ' ', ' ', '3'] = true ∧
    isAcceptable ['1', '.', '3'] ['3', ' ', ' ', '1', '.', '2', '+', '&', '1', '*', ' ', ' ', '3'] =
      true ∧
    isAcceptable ['1', '.', '3']
      [' ', '1', '*', '&', '1', '.', '2', '+', '&', '1', '*', ' ', ' ', '3'] = true := by
  have haccepts : isAcceptable ['1', '.', '3']
      [' ', '1', '.', '2', '+', '&', '1', '*', ' ', ' ', '3'] = true := by decide
  have hpieces : VersionString.pieces [' ', '1', '.', '2', '+', '&', '1', '*', ' ', ' ', '3'] =
      [[], ['1', '.', '2', '+', '&', '1', '*'], [], ['3']] := by decide
  have hsimples : Element.pieces ['1', '.', '2', '+', '&', '1', '*'] =
      [['1', '.', '2', '+'], ['1', '*']] := by decide
  obtain ⟨-, -, -, helements, hinside⟩ := acceptance_composition ['1', '.', '3']
    [' ', '1', '.', '2', '+', '&', '1', '*', ' ', ' ', '3'] []
  have hmoved := helements [['3'], [], ['1', '.', '2', '+', '&', '1', '*'], [], ['3']]
    (by simp [hpieces])
  have hrepeated := hinside [[]] _ [[], ['3']] [['1', '*'], ['1', '.', '2', '+'], ['1', '*']] hpieces
    (by simp [hsimples])
  exact ⟨haccepts, hmoved.trans haccepts, hrepeated.trans haccepts⟩

end VersionMatch.Requirement
