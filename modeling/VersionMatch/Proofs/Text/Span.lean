import VersionMatch.Text.Span

/-!
# Cutting a text at its delimiters

`Cut isDelimiter text pieces` describes the pieces of a text without computing them: no piece
holds a delimiter, and the text has one delimiter between neighbours. `cut_iff` shows that `spans`
computes the only list of pieces with this property, so a statement about pieces can be made
through `Cut` and proved through `spans`.
-/

namespace VersionMatch.Text

/-- `Cut isDelimiter text pieces` says that the text is made of the pieces, none of which holds a
delimiter, with a single delimiter between neighbours. -/
inductive Cut (isDelimiter : Char → Bool) : Text → List Text → Prop where
  | last (piece) :
      (∀ c ∈ piece, isDelimiter c = false) → Cut isDelimiter piece [piece]
  | cons (piece delimiter rest pieces) :
      (∀ c ∈ piece, isDelimiter c = false) → isDelimiter delimiter = true →
      Cut isDelimiter rest pieces →
      Cut isDelimiter (piece ++ delimiter :: rest) (piece :: pieces)

/-- The pieces in order, each followed by the delimiter at its place and the last one by
nothing. -/
def interleave (pieces : List Text) (delimiters : List Char) : Text :=
  (List.zipWith (· ++ ·) pieces (delimiters.map ([·]) ++ [[]])).flatten

/-- `FirstWithout isDelimiter P text piece` says that the piece is the leftmost one of the text that
does not have the property `P`. -/
def FirstWithout (isDelimiter : Char → Bool) (P : Text → Prop) (text piece : Text) : Prop :=
  ∃ before after, Cut isDelimiter text (before ++ piece :: after) ∧
    (∀ earlier ∈ before, P earlier) ∧ ¬ P piece

variable {isDelimiter : Char → Bool}

theorem forall_not_delimiter_iff {delimiter : Char} {text : Text} :
    (∀ c ∈ text, (c == delimiter) = false) ↔ delimiter ∉ text := by
  simp only [beq_eq_false_iff_ne, ne_eq, List.forall_mem_ne']

/-! ## The pieces that `spans` computes -/

/-- A text without delimiters is its own only piece. -/
theorem spans_of_free {text : Text} (hfree : ∀ c ∈ text, isDelimiter c = false) :
    spans isDelimiter text = [text] :=
  List.splitOnP_eq_singleton hfree

/-- The first piece of a text ends at the first delimiter. -/
theorem spans_cons_of_free {piece : Text} {delimiter : Char} (rest : Text)
    (hfree : ∀ c ∈ piece, isDelimiter c = false) (hdelimiter : isDelimiter delimiter = true) :
    spans isDelimiter (piece ++ delimiter :: rest) = piece :: spans isDelimiter rest := by
  rw [spans_append_cons piece rest hdelimiter, spans_of_free hfree, List.singleton_append]

/-- A delimiter in front of a text adds an empty piece. -/
theorem spans_cons_delimiter {c : Char} (text : Text) (h : isDelimiter c = true) :
    spans isDelimiter (c :: text) = [] :: spans isDelimiter text := by
  simp [spans, List.splitOnP_cons_eq_if_modifyHead, h]

/-- Any other character in front of a text belongs to its first piece. -/
theorem spans_cons_other {c : Char} (text : Text) (h : isDelimiter c = false) :
    spans isDelimiter (c :: text) = (spans isDelimiter text).modifyHead (c :: ·) := by
  simp [spans, List.splitOnP_cons_eq_if_modifyHead, h]

/-- A text has one piece more than it has delimiters. -/
theorem length_spans (isDelimiter : Char → Bool) (text : Text) :
    (spans isDelimiter text).length = text.countP isDelimiter + 1 := by
  induction text with
  | nil => rfl
  | cons c text ih =>
      rw [List.countP_cons]
      cases hc : isDelimiter c with
      | true => rw [spans_cons_delimiter text hc, List.length_cons, ih, if_pos rfl]
      | false =>
          rw [spans_cons_other text hc, List.length_modifyHead, ih, if_neg Bool.false_ne_true]

/-- Texts without delimiters are their own pieces. -/
theorem flat_map_spans_of_free {texts : List Text}
    (hfree : ∀ text ∈ texts, ∀ c ∈ text, isDelimiter c = false) :
    texts.flatMap (spans isDelimiter) = texts := by
  rw [List.flatMap_def, List.map_congr_left fun text htext => spans_of_free (hfree text htext)]
  exact List.flatMap_singleton' texts

/-- Texts have together as many pieces as there are texts exactly if none of them holds a
delimiter. -/
theorem length_flat_map_spans_eq_iff {texts : List Text} :
    (texts.flatMap (spans isDelimiter)).length = texts.length ↔
      ∀ text ∈ texts, ∀ c ∈ text, isDelimiter c = false := by
  have hlength : (texts.flatMap (spans isDelimiter)).length =
      texts.flatten.countP isDelimiter + texts.length := by
    induction texts with
    | nil => rfl
    | cons first others ih =>
        rw [List.flatMap_cons, List.length_append, length_spans, ih, List.flatten_cons,
          List.countP_append, List.length_cons]
        omega
  rw [hlength, Nat.add_eq_right, List.countP_eq_zero]
  simp only [List.mem_flatten, forall_exists_index, and_imp, Bool.not_eq_true]
  exact ⟨fun h text htext c hc => h c text htext hc, fun h c text htext hc => h text htext c hc⟩

/-! ## Agreement with the description -/

/-- The pieces of a cut are those that `spans` computes. -/
theorem Cut.spans_eq {text : Text} {pieces : List Text} (h : Cut isDelimiter text pieces) :
    spans isDelimiter text = pieces := by
  induction h with
  | last piece hfree => exact spans_of_free hfree
  | cons piece delimiter rest pieces hfree hdelimiter _ ih =>
      rw [spans_cons_of_free rest hfree hdelimiter, ih]

/-- A character that is no delimiter extends the first piece of a cut. -/
theorem Cut.extend {c : Char} {text piece : Text} {pieces : List Text}
    (h : Cut isDelimiter text (piece :: pieces)) (hc : isDelimiter c = false) :
    Cut isDelimiter (c :: text) ((c :: piece) :: pieces) := by
  have hextend : ∀ {piece : Text}, (∀ d ∈ piece, isDelimiter d = false) →
      ∀ d ∈ c :: piece, isDelimiter d = false := by
    intro piece hfree
    simpa [hc] using hfree
  cases h with
  | last _ hfree => exact .last _ (hextend hfree)
  | cons _ delimiter rest _ hfree hdelimiter hrest =>
      exact .cons (c :: piece) delimiter rest pieces (hextend hfree) hdelimiter hrest

/-- What `spans` computes is a cut of the text. -/
theorem cut_spans (isDelimiter : Char → Bool) (text : Text) :
    Cut isDelimiter text (spans isDelimiter text) := by
  induction text with
  | nil =>
      rw [spans_of_free (by simp)]
      exact .last [] (by simp)
  | cons c text ih =>
      cases hc : isDelimiter c with
      | true =>
          rw [spans_cons_delimiter text hc]
          exact .cons [] c text _ (by simp) hc ih
      | false =>
          -- There is a first piece for the character to join.
          obtain ⟨piece, pieces, hpieces⟩ :=
            List.exists_cons_of_ne_nil (spans_ne_nil isDelimiter text)
          rw [spans_cons_other text hc, hpieces]
          rw [hpieces] at ih
          exact ih.extend hc

/-- A text has exactly one cut, the one that `spans` computes. -/
theorem cut_iff {text : Text} {pieces : List Text} :
    Cut isDelimiter text pieces ↔ spans isDelimiter text = pieces := by
  constructor
  · exact Cut.spans_eq
  · rintro rfl
    exact cut_spans isDelimiter text

/-- The characters of the pieces are those of the text that are no delimiters. -/
theorem Cut.mem_iff {text : Text} {pieces : List Text} (h : Cut isDelimiter text pieces)
    (c : Char) : (∃ piece ∈ pieces, c ∈ piece) ↔ c ∈ text ∧ isDelimiter c = false := by
  induction h with
  | last piece hfree =>
      simp only [List.mem_singleton, exists_eq_left]
      exact ⟨fun hc => ⟨hc, hfree c hc⟩, And.left⟩
  | cons piece delimiter rest pieces hfree hdelimiter _ ih =>
      simp only [List.mem_cons, exists_eq_or_imp, ih, List.mem_append]
      constructor
      · intro h
        rcases h with hc | ⟨hc, hother⟩
        · exact ⟨.inl hc, hfree c hc⟩
        · exact ⟨.inr (.inr hc), hother⟩
      · intro ⟨h, hother⟩
        rcases h with hc | rfl | hc
        · exact .inl hc
        · rw [hdelimiter] at hother
          cases hother
        · exact .inr ⟨hc, hother⟩

/-- No piece of a text holds the delimiter. -/
theorem not_mem_of_mem_spans {delimiter : Char} {text piece : Text}
    (h : piece ∈ spans (· == delimiter) text) : delimiter ∉ piece := by
  intro hmem
  have hother := ((cut_spans (· == delimiter) text).mem_iff delimiter).1 ⟨piece, h, hmem⟩
  simp at hother

/-- The pieces with the delimiters of the text between them give back the text. -/
theorem interleave_spans (isDelimiter : Char → Bool) (text : Text) :
    interleave (spans isDelimiter text) (text.filter isDelimiter) = text :=
  List.splitOnP_spec text

/-- Cutting undoes joining when no piece holds the delimiter. -/
theorem spans_join {delimiter : Char} {pieces : List Text}
    (hfree : ∀ piece ∈ pieces, delimiter ∉ piece) (hne : pieces ≠ []) :
    spans (· == delimiter) (join [delimiter] pieces) = pieces := by
  rw [spans, ← List.splitOn_eq_splitOnP]
  exact List.splitOn_intercalate delimiter hfree hne

/-- Joined texts are cut where they were joined, and each of them where it holds the delimiter. -/
theorem spans_join_eq_flat_map {delimiter : Char} {texts : List Text} (hne : texts ≠ []) :
    spans (· == delimiter) (join [delimiter] texts) = texts.flatMap (spans (· == delimiter)) := by
  induction texts with
  | nil => exact absurd rfl hne
  | cons first others ih =>
      cases others with
      | nil => rw [join, List.intercalate_singleton, List.flatMap_singleton]
      | cons second others =>
          rw [join, List.intercalate_cons_cons, List.append_assoc, List.flatMap_cons]
          rw [List.singleton_append, spans_append_cons _ _ (by simp)]
          exact congrArg _ (ih (by simp))

/-- The characters of joined texts are theirs and the delimiter. -/
theorem mem_of_mem_join {delimiter c : Char} {texts : List Text}
    (h : c ∈ join [delimiter] texts) : c = delimiter ∨ ∃ text ∈ texts, c ∈ text := by
  by_cases hne : texts = []
  · rw [hne] at h
    cases h
  · by_cases hc : c = delimiter
    · exact .inl hc
    · have hpiece := ((cut_spans (· == delimiter) _).mem_iff c).2 ⟨h, by simpa using hc⟩
      rw [spans_join_eq_flat_map hne] at hpiece
      obtain ⟨piece, hpiece, hmem⟩ := hpiece
      obtain ⟨text, htext, hspan⟩ := List.mem_flatMap.1 hpiece
      exact .inr ⟨text, htext, (((cut_spans _ text).mem_iff c).1 ⟨piece, hspan, hmem⟩).1⟩

/-- Pieces of a text, in any order and number, are the pieces of the text that joins them, if none
is left out. -/
theorem spans_join_of_mem_iff {delimiter : Char} {text : Text} {pieces : List Text}
    (h : ∀ piece, piece ∈ pieces ↔ piece ∈ spans (· == delimiter) text) :
    spans (· == delimiter) (join [delimiter] pieces) = pieces := by
  refine spans_join ?_ ?_
  · intro piece hpiece
    exact not_mem_of_mem_spans ((h piece).1 hpiece)
  · obtain ⟨piece, hpiece⟩ := List.exists_mem_of_ne_nil _ (spans_ne_nil (· == delimiter) text)
    exact List.ne_nil_of_mem ((h piece).2 hpiece)

/-! ## The leftmost piece without a property -/

section FirstWithout

variable {P : Text → Prop} {text piece : Text}

/-- The first piece that passes a test of not having the property is the leftmost one without it. -/
theorem find_eq_some_iff {test : Text → Bool} (htest : ∀ piece, test piece = true ↔ ¬ P piece) :
    (spans isDelimiter text).find? test = some piece ↔ FirstWithout isDelimiter P text piece := by
  simp only [List.find?_eq_some_iff_append, Bool.not_eq_true', ← Bool.not_eq_true, htest,
    Classical.not_not, FirstWithout, cut_iff]
  constructor
  · intro ⟨hnot, before, after, hcut, hbefore⟩
    exact ⟨before, after, hcut, hbefore, hnot⟩
  · intro ⟨before, after, hcut, hbefore, hnot⟩
    exact ⟨hnot, before, after, hcut, hbefore⟩

/-- What a search finds in pieces without the property only, it finds in the leftmost of them. -/
theorem find_some_eq_some_iff {α : Type} {search : Text → Option α} {value : α}
    (hsearch : ∀ piece, search piece = none ↔ P piece) :
    (spans isDelimiter text).findSome? search = some value ↔
      ∃ piece, FirstWithout isDelimiter P text piece ∧ search piece = some value := by
  simp only [List.findSome?_eq_some_iff, hsearch, FirstWithout, cut_iff]
  constructor
  · intro ⟨before, piece, after, hcut, hfound, hbefore⟩
    have hnot : ¬ P piece := by simp [← hsearch, hfound]
    exact ⟨piece, ⟨before, after, hcut, hbefore, hnot⟩, hfound⟩
  · intro ⟨piece, ⟨before, after, hcut, hbefore, _⟩, hfound⟩
    exact ⟨before, piece, after, hcut, hfound, hbefore⟩

theorem FirstWithout.unique {other : Text} (h : FirstWithout isDelimiter P text piece)
    (hother : FirstWithout isDelimiter P text other) : piece = other := by
  classical
  have htest : ∀ piece, decide (¬ P piece) = true ↔ ¬ P piece := fun _ => decide_eq_true_iff
  rw [← find_eq_some_iff htest] at h hother
  exact Option.some.inj (h.symm.trans hother)

/-- A text without delimiters that does not have the property is its own only piece. -/
theorem FirstWithout.of_free (hfree : ∀ c ∈ text, isDelimiter c = false) (hnot : ¬ P text) :
    FirstWithout isDelimiter P text text :=
  ⟨[], [], .last text hfree, nofun, hnot⟩

/-- The only piece of the empty text is empty. -/
theorem FirstWithout.eq_nil (h : FirstWithout isDelimiter P [] piece) : piece = [] := by
  obtain ⟨before, after, hcut, -, -⟩ := h
  have hpieces := hcut.spans_eq
  rw [spans_of_free (by simp)] at hpieces
  have hmem : piece ∈ [[]] := by simp [hpieces]
  exact List.mem_singleton.1 hmem

end FirstWithout

end VersionMatch.Text
