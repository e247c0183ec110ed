import VersionMatch.Proofs.Text.Span

/-!
# The decomposition of a text

A text can be cut in one walk along its characters that remembers where the current piece begins.
A delimiter ends the piece, and what is left behind the last delimiter is the last piece.
`cut_by_walk_eq_spans` shows by an invariant of the walk that this finds the pieces of `spans`.
`spans_unique_decomposition` sums up what these pieces are: the only ones without a delimiter that
make up the text with delimiters between them.
-/

namespace VersionMatch.Text

variable {isDelimiter : Char → Bool}

/-! ## Cutting in one walk -/

/-- Where a walk along a text stands: the index at which the current piece begins, and the pieces
in front of it. -/
structure Walk where
  start : Nat
  pieces : List Text

/-- The walk behind one more character of the text, given with its index. -/
def Walk.step (isDelimiter : Char → Bool) (text : Text) (walk : Walk) (entry : Char × Nat) :
    Walk :=
  if isDelimiter entry.1 then ⟨entry.2 + 1, walk.pieces ++ [text.extract walk.start entry.2]⟩
  else walk

/-- The walk along a whole text. -/
def walkAlong (isDelimiter : Char → Bool) (text : Text) : Walk :=
  text.zipIdx.foldl (Walk.step isDelimiter text) ⟨0, []⟩

/-- The pieces of a text that a walk along it finds. -/
def cutByWalk (isDelimiter : Char → Bool) (text : Text) : List Text :=
  (walkAlong isDelimiter text).pieces ++ [text.drop (walkAlong isDelimiter text).start]

/-- What a walk knows behind the first characters of a text: its pieces and the unfinished one are
the pieces of what it has seen. -/
structure Walk.Behind (isDelimiter : Char → Bool) (before : Text) (walk : Walk) : Prop where
  start_le : walk.start ≤ before.length
  pieces_eq : walk.pieces ++ [before.drop walk.start] = spans isDelimiter before

/-- A delimiter at the end of a text adds an empty piece. -/
theorem spans_concat_delimiter {c : Char} (text : Text) (h : isDelimiter c = true) :
    spans isDelimiter (text ++ [c]) = spans isDelimiter text ++ [[]] := by
  exact spans_append_cons text [] h

/-- Any other character at the end of a text extends its last piece. -/
theorem Cut.concat {c : Char} {text piece : Text} {pieces : List Text}
    (h : Cut isDelimiter text (pieces ++ [piece])) (hc : isDelimiter c = false) :
    Cut isDelimiter (text ++ [c]) (pieces ++ [piece ++ [c]]) := by
  generalize hall : pieces ++ [piece] = all at h
  induction h generalizing pieces with
  | last last hfree =>
      cases pieces with
      | nil =>
          cases hall
          refine .last _ ?_
          simpa [or_imp, forall_and, hc] using hfree
      | cons => simp at hall
  | cons first delimiter rest others hfree hdelimiter hrest ih =>
      cases pieces with
      | nil =>
          cases hall
          cases hrest
      | cons second pieces =>
          obtain ⟨rfl, hothers⟩ := List.cons.inj hall
          rw [List.append_assoc]
          exact .cons second delimiter _ _ hfree hdelimiter (ih hothers)

/-- One step of a walk keeps what it knows. -/
theorem Walk.Behind.step {before after : Text} {walk : Walk} {c : Char}
    (h : walk.Behind isDelimiter before) :
    (walk.step isDelimiter (before ++ c :: after) (c, before.length)).Behind isDelimiter
      (before ++ [c]) := by
  have hlength : (before ++ [c]).length = before.length + 1 := List.length_append
  unfold Walk.step
  cases hc : isDelimiter c with
  | true =>
      -- The unfinished piece ends in front of the delimiter, and an empty one begins behind it.
      have hpiece : (before ++ c :: after).extract walk.start before.length =
          before.drop walk.start := by
        rw [List.extract_eq_take_drop, List.drop_append_of_le_length h.start_le]
        exact List.take_left' (List.length_drop)
      rw [if_pos rfl, hpiece, h.pieces_eq]
      refine ⟨Nat.le_of_eq hlength.symm, ?_⟩
      rw [spans_concat_delimiter before hc, ← hlength, List.drop_length]
  | false =>
      have hcut : Cut isDelimiter before (walk.pieces ++ [before.drop walk.start]) :=
        cut_iff.2 h.pieces_eq.symm
      rw [if_neg Bool.false_ne_true]
      refine ⟨Nat.le_trans h.start_le (Nat.le_of_lt (by omega)), ?_⟩
      rw [List.drop_append_of_le_length h.start_le]
      exact (hcut.concat hc).spans_eq.symm

/-- A walk along the rest of a text keeps what it knows. -/
theorem Walk.Behind.fold {before after : Text} {walk : Walk} (h : walk.Behind isDelimiter before) :
    ((after.zipIdx before.length).foldl (Walk.step isDelimiter (before ++ after)) walk).Behind
      isDelimiter (before ++ after) := by
  induction after generalizing before walk with
  | nil => simpa using h
  | cons c after ih =>
      have hstep : (walk.step isDelimiter (before ++ c :: after) (c, before.length)).Behind
          isDelimiter (before ++ [c]) := h.step
      have hrest := ih hstep
      rw [List.append_assoc, List.length_append] at hrest
      exact hrest

/-- A walk along a text finds its pieces. -/
theorem cut_by_walk_eq_spans (isDelimiter : Char → Bool) (text : Text) :
    cutByWalk isDelimiter text = spans isDelimiter text := by
  have hstart : Walk.Behind isDelimiter [] ⟨0, []⟩ := ⟨Nat.le_refl 0, rfl⟩
  have hwalk : (walkAlong isDelimiter text).Behind isDelimiter text := hstart.fold
  exact hwalk.pieces_eq

/-! ## Pieces with any delimiters between them -/

theorem interleave_cons (piece : Text) (pieces : List Text) (delimiter : Char)
    (delimiters : List Char) :
    interleave (piece :: pieces) (delimiter :: delimiters) =
      piece ++ delimiter :: interleave pieces delimiters := by
  simp [interleave]

/-- Pieces without delimiters and the delimiters between them are found again in the text that they
make up. -/
theorem spans_interleave {pieces : List Text} {delimiters : List Char}
    (hlength : pieces.length = delimiters.length + 1)
    (hfree : ∀ piece ∈ pieces, ∀ c ∈ piece, isDelimiter c = false)
    (hdelimiters : ∀ delimiter ∈ delimiters, isDelimiter delimiter = true) :
    spans isDelimiter (interleave pieces delimiters) = pieces ∧
      (interleave pieces delimiters).filter isDelimiter = delimiters := by
  induction delimiters generalizing pieces with
  | nil =>
      obtain ⟨piece, rfl⟩ := List.length_eq_one_iff.1 hlength
      have hpiece : ∀ c ∈ piece, isDelimiter c = false := hfree piece List.mem_cons_self
      have hinterleave : interleave [piece] [] = piece := by simp [interleave]
      rw [hinterleave]
      exact ⟨spans_of_free hpiece, List.filter_eq_nil_iff.2 (by simpa using hpiece)⟩
  | cons delimiter delimiters ih =>
      cases pieces with
      | nil => cases hlength
      | cons piece pieces =>
          rw [List.forall_mem_cons] at hfree hdelimiters
          obtain ⟨hspans, hfilter⟩ := ih (Nat.succ.inj hlength) hfree.2 hdelimiters.2
          have hnone : piece.filter isDelimiter = [] :=
            List.filter_eq_nil_iff.2 (by simpa using hfree.1)
          rw [interleave_cons, spans_cons_of_free _ hfree.1 hdelimiters.1, hspans,
            List.filter_append, hnone, List.filter_cons_of_pos hdelimiters.1, hfilter]
          exact ⟨rfl, rfl⟩

/-- A walk along a text finds one piece more than the text has delimiters. No piece holds a
delimiter, and the pieces with the delimiters between them give back the text. Any pieces without
delimiters are those of the text that they make up with any delimiters between them, and these are
its delimiters. So a delimiter between two texts keeps their pieces apart. -/
theorem spans_unique_decomposition (isDelimiter : Char → Bool) (text : Text) :
    cutByWalk isDelimiter text = spans isDelimiter text ∧
    (spans isDelimiter text).length = text.countP isDelimiter + 1 ∧
    (∀ piece ∈ spans isDelimiter text, ∀ c ∈ piece, isDelimiter c = false) ∧
    interleave (spans isDelimiter text) (text.filter isDelimiter) = text ∧
    (∀ pieces delimiters, pieces.length = delimiters.length + 1 →
      (∀ piece ∈ pieces, ∀ c ∈ piece, isDelimiter c = false) →
      (∀ delimiter ∈ delimiters, isDelimiter delimiter = true) →
      spans isDelimiter (interleave pieces delimiters) = pieces ∧
        (interleave pieces delimiters).filter isDelimiter = delimiters) ∧
    ∀ delimiter right, isDelimiter delimiter = true →
      spans isDelimiter (text ++ delimiter :: right) =
        spans isDelimiter text ++ spans isDelimiter right := by
  refine ⟨cut_by_walk_eq_spans isDelimiter text, length_spans isDelimiter text, ?_,
    interleave_spans isDelimiter text, fun _ _ => spans_interleave, ?_⟩
  · intro piece hpiece c hc
    exact (((cut_spans isDelimiter text).mem_iff c).1 ⟨piece, hpiece, hc⟩).2
  · intro delimiter right hdelimiter
    exact spans_append_cons text right hdelimiter

/-- Delimiters at the end of a text and next to each other bound empty pieces. -/
theorem spans_unique_decomposition_adjacent :
    interleave [['1'], [], ['2'], []] ['.', '_', '.'] = ['1', '.', '_', '2', '.'] ∧
    spans (fun c => c == '.' || c == '_') ['1', '.', '_', '2', '.'] = [['1'], [], ['2'], []] ∧
    spans (fun c => c == '.' || c == '_') ['1', '.', '_', '2', '.', '_', '-', '3'] =
      [['1'], [], ['2'], [], ['-', '3']] := by
  obtain ⟨-, -, -, -, hmade, hjoined⟩ :=
    spans_unique_decomposition (fun c => c == '.' || c == '_') ['1', '.', '_', '2', '.']
  have htext : interleave [['1'], [], ['2'], []] ['.', '_', '.'] = ['1', '.', '_', '2', '.'] := rfl
  have hpieces := (hmade [['1'], [], ['2'], []] ['.', '_', '.'] rfl (by simp) (by simp)).1
  have hright : spans (fun c => c == '.' || c == '_') ['-', '3'] = [['-', '3']] := rfl
  rw [htext] at hpieces
  refine ⟨htext, hpieces, ?_⟩
  have happend := hjoined '_' ['-', '3'] rfl
  rw [hpieces, hright] at happend
  exact happend

end VersionMatch.Text
