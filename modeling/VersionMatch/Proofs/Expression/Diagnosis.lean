import VersionMatch.Proofs.Expression.Problem

/-!
# The problem of a text made of two

The problem of a text is that of its first piece at fault, so what stands left of a delimiter is
looked at before what stands right of it. This holds on both levels, for the elements of a
version-string and for the simple-elements of an element, and `PieceByPiece` is what the two levels
have in common. The empty text needs care: on its own it is an empty version-string, but beside a
space it is an empty element, and beside an ampersand an empty simple-element.
`problem_of_joined_texts` puts the two levels together.
-/

namespace VersionMatch

/-- `PieceByPiece delimiter emptyPiece inner outer` says that `outer` cuts a text at the delimiter
and finds what `inner` finds first in one of the pieces. An empty piece is the problem `emptyPiece`,
and the empty text has some problem of its own. -/
structure Problem.PieceByPiece (delimiter : Char) (emptyPiece : Problem)
    (inner outer : Text → Option Problem) : Prop where
  inner_nil : inner [] = some emptyPiece
  outer_nil : outer [] ≠ none
  outer_of_ne_nil (text) :
    text ≠ [] → outer text = (Text.spans (· == delimiter) text).findSome? inner

theorem Element.piece_by_piece :
    Problem.PieceByPiece '&' .emptySimpleElement SimpleElement.problem? Element.problem? := by
  refine ⟨by decide, by decide, ?_⟩
  intro text hne
  rw [Element.problem?, List.isEmpty_eq_false_iff.2 hne]
  rfl

theorem VersionString.piece_by_piece :
    Problem.PieceByPiece ' ' .emptyElement Element.problem? VersionString.problem? := by
  refine ⟨by decide, by decide, ?_⟩
  intro text hne
  rw [VersionString.problem?, List.isEmpty_eq_false_iff.2 hne]
  rfl

namespace Problem.PieceByPiece

variable {delimiter : Char} {emptyPiece : Problem} {inner outer : Text → Option Problem}

/-- A text without the delimiter has the problem of its only piece. -/
theorem outer_of_not_mem (h : PieceByPiece delimiter emptyPiece inner outer) {text : Text}
    (hne : text ≠ []) (hmem : delimiter ∉ text) : outer text = inner text := by
  have hfree : ∀ c ∈ text, (c == delimiter) = false := by
    intro c hc
    exact beq_eq_false_iff_ne.2 (ne_of_mem_of_not_mem hc hmem)
  rw [h.outer_of_ne_nil text hne, Text.spans_of_free hfree]
  cases hinner : inner text <;> simp [hinner]

/-- The first problem of the pieces of one side. -/
theorem find_some_eq (h : PieceByPiece delimiter emptyPiece inner outer) (text : Text) :
    (Text.spans (· == delimiter) text).findSome? inner =
      if text = [] then some emptyPiece else outer text := by
  by_cases hnil : text = []
  · -- The empty text is a single empty piece.
    rw [if_pos hnil, hnil, Text.spans_of_free (by simp)]
    simp [h.inner_nil]
  · rw [if_neg hnil, h.outer_of_ne_nil text hnil]

/-- The problem of a text of two sides is that of the left side, or else that of the right side. An
empty side is an empty piece. -/
theorem outer_append (h : PieceByPiece delimiter emptyPiece inner outer) (left right : Text) :
    outer (left ++ delimiter :: right) =
      if left = [] then some emptyPiece
      else (outer left).or (if right = [] then some emptyPiece else outer right) := by
  have hpieces : Text.spans (· == delimiter) (left ++ delimiter :: right) =
      Text.spans (· == delimiter) left ++ Text.spans (· == delimiter) right :=
    Text.spans_append_cons left right (beq_self_eq_true delimiter)
  rw [h.outer_of_ne_nil _ (by simp), hpieces, List.findSome?_append, h.find_some_eq left,
    h.find_some_eq right]
  split <;> rfl

/-- A text of two sides has no problem exactly if neither side has one. -/
theorem outer_append_eq_none_iff (h : PieceByPiece delimiter emptyPiece inner outer)
    (left right : Text) :
    outer (left ++ delimiter :: right) = none ↔ outer left = none ∧ outer right = none := by
  rw [h.outer_append]
  by_cases hleft : left = []
  · simp [hleft, h.outer_nil]
  · by_cases hright : right = []
    · simp [hleft, hright, h.outer_nil]
    · simp [hleft, hright]

end Problem.PieceByPiece

/-- The problem of two texts with a space between them is an empty element or the problem of the
left text, and else an empty element or the problem of the right text. With an ampersand between
them the same holds of elements and empty simple-elements. A text without a space has the problem of
its only element, and a text without an ampersand that of its only simple-element. So the text of
two sides is valid exactly if both sides are. -/
theorem problem_of_joined_texts (left right : Text) :
    VersionString.problem? (left ++ ' ' :: right) =
      (if left = [] then some .emptyElement
        else (VersionString.problem? left).or
          (if right = [] then some .emptyElement else VersionString.problem? right)) ∧
    Element.problem? (left ++ '&' :: right) =
      (if left = [] then some .emptySimpleElement
        else (Element.problem? left).or
          (if right = [] then some .emptySimpleElement else Element.problem? right)) ∧
    Problem.emptyElement.message = "empty element".toList ∧
    Problem.emptySimpleElement.message = "empty simple-element".toList ∧
    (∀ text, text ≠ [] → ' ' ∉ text → VersionString.problem? text = Element.problem? text) ∧
    (∀ text, text ≠ [] → '&' ∉ text → Element.problem? text = SimpleElement.problem? text) ∧
    (Query.isValid (some (left ++ ' ' :: right)) = true ↔
      Query.isValid (some left) = true ∧ Query.isValid (some right) = true) ∧
    (Query.isValidElement (some (left ++ '&' :: right)) = true ↔
      Query.isValidElement (some left) = true ∧ Query.isValidElement (some right) = true) := by
  refine ⟨VersionString.piece_by_piece.outer_append left right,
    Element.piece_by_piece.outer_append left right, rfl, rfl, ?_, ?_, ?_, ?_⟩
  · intro text hne hspace
    exact VersionString.piece_by_piece.outer_of_not_mem hne hspace
  · intro text hne hampersand
    exact Element.piece_by_piece.outer_of_not_mem hne hampersand
  · simp only [Query.isValid, Option.isNone_iff_eq_none]
    exact VersionString.piece_by_piece.outer_append_eq_none_iff left right
  · simp only [Query.isValidElement, Option.isNone_iff_eq_none]
    exact Element.piece_by_piece.outer_append_eq_none_iff left right

/-- A space at the end adds an empty element, which counts only because the left side is valid. -/
example : VersionString.problem? "1.8+ ".toList = some .emptyElement ∧
    VersionString.problem? "1..8 ".toList = some (.adjacentSeparators "1..8".toList) := by
  decide

end VersionMatch
