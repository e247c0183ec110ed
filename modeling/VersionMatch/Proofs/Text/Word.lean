import VersionMatch.Proofs.Text.Blank
import VersionMatch.Proofs.Text.Span

/-!
# The words of a text

A text is cut into words at its spaces, however many of them stand together. Everything about
`words` follows from `words_append_space`: a space separates what is in front of it from what is
behind it.
-/

namespace VersionMatch.Text

/-- The pieces of a text between runs of spaces. -/
def words (text : Text) : List Text :=
  (spans (· == ' ') text).filter fun piece => !piece.isEmpty

theorem words_append_space (left right : Text) :
    words (left ++ ' ' :: right) = words left ++ words right := by
  rw [words, spans_append_cons left right rfl, List.filter_append]
  rfl

/-- A text without spaces is its own only word, unless it is empty. -/
theorem words_of_free {text : Text} (hfree : ' ' ∉ text) :
    words text = [text].filter fun piece => !piece.isEmpty := by
  rw [words, spans_of_free (forall_not_delimiter_iff.2 hfree)]

theorem words_spaces (n : Nat) : words (List.replicate n ' ') = [] := by
  induction n with
  | zero => rfl
  | succ n ih =>
      rw [List.replicate_succ, ← List.nil_append (' ' :: _), words_append_space, ih]
      rfl

/-- Spaces at the end of a text are no word and end none. -/
theorem words_append_spaces (text : Text) (n : Nat) :
    words (text ++ List.replicate n ' ') = words text := by
  cases n with
  | zero => rw [List.replicate_zero, List.append_nil]
  | succ n =>
      rw [List.replicate_succ, words_append_space, words_spaces, List.append_nil]

/-- The words of texts joined by spaces are their words. -/
theorem words_join (texts : List Text) : words (join [' '] texts) = texts.flatMap words := by
  by_cases hne : texts = []
  · rw [hne]
    rfl
  · rw [words, spans_join_eq_flat_map hne, List.filter_flatMap]
    rfl

/-- Trimming keeps the words of a text whose only blanks are spaces. -/
theorem words_trim_end {text : Text} (h : ∀ c ∈ text, isBlank c = true → c = ' ') :
    words (trimEnd text) = words text := by
  generalize hkept : trimEnd text = kept
  obtain ⟨-, after, hafter, rfl⟩ := trim_end_eq_iff.1 hkept
  have hspaces : after = List.replicate after.length ' ' := by
    refine List.eq_replicate_of_mem ?_
    intro c hc
    exact h c (List.mem_append_right kept hc) (hafter c hc)
  rw [hspaces, words_append_spaces]

end VersionMatch.Text
