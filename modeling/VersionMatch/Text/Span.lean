import VersionMatch.Text.Basic

/-!
# Spans and lines

A text is cut at every delimiter character. Adjacent delimiters bound an empty span, and the empty
text is a single empty span, so there is always one span more than there are delimiters.

The lines of a text are its spans between line feeds. In a file, a carriage return, or both
characters in that order, may stand for a line feed; reading the file turns each of these into one.
-/

namespace VersionMatch.Text

/-- The pieces of a text bounded by the characters that `isDelimiter` selects. -/
def spans (isDelimiter : Char → Bool) (text : Text) : List Text :=
  text.splitOnP isDelimiter

theorem spans_ne_nil (isDelimiter : Char → Bool) (text : Text) : spans isDelimiter text ≠ [] :=
  List.splitOnP_ne_nil isDelimiter text

/-- Cutting at a delimiter in the middle cuts the two sides apart. -/
theorem spans_append_cons {isDelimiter : Char → Bool} {delimiter : Char} (left right : Text)
    (h : isDelimiter delimiter = true) :
    spans isDelimiter (left ++ delimiter :: right) =
      spans isDelimiter left ++ spans isDelimiter right :=
  List.splitOnP_append_cons left right h

/-- The lines of a text, without the line feeds between them. -/
def lines (text : Text) : List Text :=
  spans (· == '\n') text

/-- The text of a file, with every line end written as one line feed. -/
def normaliseLineEnds : Text → Text
  | [] => []
  | '\r' :: '\n' :: rest => '\n' :: normaliseLineEnds rest
  | c :: rest => (if c == '\r' then '\n' else c) :: normaliseLineEnds rest

end VersionMatch.Text
