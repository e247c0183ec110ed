import VersionMatch.Expression.Basic
import VersionMatch.Proofs.Expression.Basic
import VersionMatch.Proofs.Text.Span
import VersionMatch.VersionId

/-!
# The grammar of version-strings

    version-string ::= element ( ' ' element )*
    element        ::= simple-element ( '&' simple-element )*
    simple-element ::= version-id | version-id '+' | version-id '*'
    version-id     ::= string ( separator string )*
    string         ::= char ( char )*
    char           ::= any character but ' ', '&', '+', '*', '.', '-' and '_'
    separator      ::= '.' | '-' | '_'

Three of the rules have the shape of `Separated`. No item of these rules holds the delimiter of
its own rule, so `separated_iff` can replace a derivation by the pieces of the text.
-/

namespace VersionMatch.Grammar

/-- `item ( delimiter item )*` -/
inductive Separated (isDelimiter : Char → Bool) (Item : Text → Prop) : Text → Prop where
  | one (item) : Item item → Separated isDelimiter Item item
  | more (item delimiter rest) :
      Item item → isDelimiter delimiter = true → Separated isDelimiter Item rest →
      Separated isDelimiter Item (item ++ delimiter :: rest)

/-- The characters of a string. -/
def IsChar (c : Char) : Prop :=
  c ∉ [' ', '&', '+', '*', '.', '-', '_']

/-- `string ::= char ( char )*` -/
inductive IsString : Text → Prop where
  | single (c) : IsChar c → IsString [c]
  | more (c rest) : IsChar c → IsString rest → IsString (c :: rest)

/-- `version-id ::= string ( separator string )*` -/
def IsVersionId : Text → Prop :=
  Separated VersionId.isSeparator IsString

/-- `simple-element ::= version-id | version-id '+' | version-id '*'` -/
inductive IsSimpleElement : Text → Prop where
  | plain (versionId) : IsVersionId versionId → IsSimpleElement versionId
  | atLeast (versionId) : IsVersionId versionId → IsSimpleElement (versionId ++ ['+'])
  | prefixMatch (versionId) : IsVersionId versionId → IsSimpleElement (versionId ++ ['*'])

/-- `element ::= simple-element ( '&' simple-element )*` -/
def IsElement : Text → Prop :=
  Separated (· == '&') IsSimpleElement

/-- `version-string ::= element ( ' ' element )*` -/
def IsVersionString : Text → Prop :=
  Separated (· == ' ') IsElement

/-! ## Derivations and pieces -/

section Separated

variable {isDelimiter : Char → Bool} {Item : Text → Prop} {text : Text}

/-- What holds of the characters of every item and of the delimiters holds of the whole text. -/
theorem Separated.forall_mem {P : Char → Prop} (h : Separated isDelimiter Item text)
    (hitem : ∀ item, Item item → ∀ c ∈ item, P c)
    (hdelimiter : ∀ c, isDelimiter c = true → P c) : ∀ c ∈ text, P c := by
  induction h with
  | one item h => exact hitem item h
  | more item delimiter rest h hselected _ ih =>
      intro c hc
      rcases List.mem_append.1 hc with hc | hc
      · exact hitem item h c hc
      · rcases List.mem_cons.1 hc with rfl | hc
        · exact hdelimiter _ hselected
        · exact ih c hc

/-- Pieces that are items make up a derivation. -/
theorem separated_of_cut {pieces : List Text} (h : Text.Cut isDelimiter text pieces)
    (hitems : ∀ piece ∈ pieces, Item piece) : Separated isDelimiter Item text := by
  induction h with
  | last piece _ => exact .one piece (hitems piece (by simp))
  | cons piece delimiter rest pieces _ hdelimiter _ ih =>
      refine .more piece delimiter rest (hitems piece (by simp)) hdelimiter (ih ?_)
      intro later hlater
      exact hitems later (by simp [hlater])

/-- If no item holds a delimiter, the texts with a derivation are those whose pieces are items. -/
theorem separated_iff (hfree : ∀ item, Item item → ∀ c ∈ item, isDelimiter c = false) :
    Separated isDelimiter Item text ↔ ∀ piece ∈ Text.spans isDelimiter text, Item piece := by
  constructor
  · intro h
    induction h with
    | one item h =>
        rw [Text.spans_of_free (hfree item h)]
        simpa using h
    | more item delimiter rest h hdelimiter _ ih =>
        -- An item holds no delimiter, so the first piece ends where the first item does.
        rw [Text.spans_cons_of_free rest (hfree item h) hdelimiter, List.forall_mem_cons]
        exact ⟨h, ih⟩
  · exact separated_of_cut (Text.cut_spans isDelimiter text)

end Separated

/-! ## The characters of each symbol -/

/-- A string is not empty and made of characters that have no other meaning. -/
theorem is_string_iff {text : Text} : IsString text ↔ text ≠ [] ∧ ∀ c ∈ text, IsChar c := by
  constructor
  · intro h
    induction h with
    | single c hc => simpa using hc
    | more c rest hc _ ih => exact ⟨by simp, List.forall_mem_cons.2 ⟨hc, ih.2⟩⟩
  · intro ⟨hne, hchars⟩
    induction text with
    | nil => exact absurd rfl hne
    | cons c rest ih =>
        rw [List.forall_mem_cons] at hchars
        cases rest with
        | nil => exact .single c hchars.1
        | cons d rest => exact .more c (d :: rest) hchars.1 (ih (by simp) hchars.2)

/-- A character of a string is neither a separator nor one that builds expressions. -/
theorem is_char_iff {c : Char} :
    IsChar c ↔ VersionId.isSeparator c = false ∧ c ∉ [' ', '&', '*', '+'] := by
  simp only [IsChar, VersionId.isSeparator, List.mem_cons, List.not_mem_nil, or_false, not_or,
    Bool.or_eq_false_iff, beq_eq_false_iff_ne, ne_eq]
  constructor
  · intro ⟨hspace, hampersand, hplus, hstar, hdot, hhyphen, hunderscore⟩
    exact ⟨⟨⟨hdot, hhyphen⟩, hunderscore⟩, hspace, hampersand, hstar, hplus⟩
  · intro ⟨⟨⟨hdot, hhyphen⟩, hunderscore⟩, hspace, hampersand, hstar, hplus⟩
    exact ⟨hspace, hampersand, hplus, hstar, hdot, hhyphen, hunderscore⟩

/-- A version-id is a text whose components are strings. -/
theorem is_version_id_iff {versionId : Text} :
    IsVersionId versionId ↔ ∀ component ∈ VersionId.components versionId, IsString component :=
  separated_iff fun _ hstring c hc => (is_char_iff.1 ((is_string_iff.1 hstring).2 c hc)).1

/-- No character of a version-id builds expressions. -/
theorem IsVersionId.not_mem {versionId : Text} (h : IsVersionId versionId) :
    ∀ c ∈ versionId, c ∉ [' ', '&', '*', '+'] := by
  refine Separated.forall_mem h ?_ ?_
  · intro component hstring c hc
    exact (is_char_iff.1 ((is_string_iff.1 hstring).2 c hc)).2
  · intro c hseparator hc
    simp only [List.mem_cons, List.not_mem_nil, or_false] at hc
    rcases hc with rfl | rfl | rfl | rfl <;> cases hseparator

theorem IsVersionId.ne_nil {versionId : Text} (h : IsVersionId versionId) : versionId ≠ [] := by
  intro hnil
  subst hnil
  have hstring : IsString [] := is_version_id_iff.1 h [] (by decide)
  exact (is_string_iff.1 hstring).1 rfl

/-- A version-id does not end in a modifier. -/
theorem IsVersionId.get_last_ne_symbol {versionId : Text} (h : IsVersionId versionId)
    (modifier : Modifier) : versionId.getLast? ≠ some modifier.symbol := by
  intro hlast
  have hforbidden := h.not_mem _ (List.mem_of_getLast? hlast)
  cases modifier <;> exact hforbidden (by decide)

/-- Rendering a simple-element with a version-id of the grammar and reading it again gives it
back: the version-id cannot end in a modifier. -/
theorem of_text_render {simple : SimpleElement} (h : IsVersionId simple.versionId) :
    SimpleElement.ofText? simple.render = some simple := by
  obtain ⟨versionId, modifier⟩ := simple
  refine SimpleElement.of_text_eq_some_iff.2 ⟨?_, rfl, ?_⟩
  · cases modifier with
    | none => exact h.ne_nil
    | some modifier => simp [SimpleElement.render]
  · -- Without a modifier the last character belongs to the version-id.
    intro hnone
    dsimp only at hnone
    subst hnone
    exact h.get_last_ne_symbol

/-- The simple-elements of the grammar are the texts of values with a version-id of the
grammar. -/
theorem is_simple_element_iff {text : Text} :
    IsSimpleElement text ↔
      ∃ simple : SimpleElement, IsVersionId simple.versionId ∧ simple.render = text := by
  constructor
  · intro h
    cases h with
    | plain _ h => exact ⟨⟨text, none⟩, h, rfl⟩
    | atLeast versionId h => exact ⟨⟨versionId, some .atLeast⟩, h, rfl⟩
    | prefixMatch versionId h => exact ⟨⟨versionId, some .prefixMatch⟩, h, rfl⟩
  · intro ⟨⟨versionId, modifier⟩, h, hrender⟩
    subst hrender
    cases modifier with
    | none => exact .plain versionId h
    | some modifier =>
        cases modifier with
        | atLeast => exact .atLeast versionId h
        | prefixMatch => exact .prefixMatch versionId h

/-- A simple-element holds neither a space nor an ampersand. -/
theorem IsSimpleElement.free {text : Text} (h : IsSimpleElement text) :
    ∀ c ∈ text, c ≠ ' ' ∧ c ≠ '&' := by
  have hid : ∀ {versionId : Text}, IsVersionId versionId → ∀ c ∈ versionId, c ≠ ' ' ∧ c ≠ '&' := by
    intro versionId h c hc
    have hnot := h.not_mem c hc
    simp only [List.mem_cons, not_or] at hnot
    exact ⟨hnot.1, hnot.2.1⟩
  cases h with
  | plain versionId h => exact hid h
  | atLeast versionId h | prefixMatch versionId h =>
      intro c hc
      rcases List.mem_append.1 hc with hc | hc
      · exact hid h c hc
      · rw [List.mem_singleton.1 hc]
        decide

/-- An element holds no space. -/
theorem IsElement.free {text : Text} (h : IsElement text) : ∀ c ∈ text, c ≠ ' ' := by
  refine Separated.forall_mem h (fun _ hsimple c hc => (hsimple.free c hc).1) ?_
  intro c hampersand hspace
  subst hspace
  cases hampersand

/-- An element is a text whose pieces between ampersands are simple-elements. -/
theorem is_element_iff {text : Text} :
    IsElement text ↔ ∀ simple ∈ Element.pieces text, IsSimpleElement simple :=
  separated_iff fun _ hsimple c hc => beq_eq_false_iff_ne.2 (hsimple.free c hc).2

/-- A version-string is a text whose pieces between spaces are elements. -/
theorem is_version_string_iff {text : Text} :
    IsVersionString text ↔ ∀ element ∈ VersionString.pieces text, IsElement element :=
  separated_iff fun _ helement c hc => beq_eq_false_iff_ne.2 (helement.free c hc)

end VersionMatch.Grammar
