import VersionMatch.Proofs.Expression.Basic
import VersionMatch.Proofs.Text.Span

/-!
# The pieces of rendered expressions

A text joins its elements by spaces and its simple-elements by ampersands, so cutting it gives back
the parts of a value only if these hold no delimiter and no element is without parts. `Separable`
is that condition. It says nothing else about version-ids, which may be empty, end in a modifier or
be malformed in other ways. Under it the pieces of a rendered value are its rendered parts, on both
levels, and every value that is read from a text meets it.
-/

namespace VersionMatch

/-- An element is separable if it has a simple-element and its version-ids hold neither a space nor
an ampersand. -/
structure Element.Separable (element : Element) : Prop where
  ne_nil : element.simpleElements ≠ []
  no_space : ∀ simple ∈ element.simpleElements, ' ' ∉ simple.versionId
  no_ampersand : ∀ simple ∈ element.simpleElements, '&' ∉ simple.versionId

/-- A version-string is separable if its elements are. It may have none. -/
def VersionString.Separable (versionString : VersionString) : Prop :=
  ∀ element ∈ versionString.elements, element.Separable

/-! ## Cutting what was rendered -/

namespace SimpleElement

/-- The characters of a rendered simple-element are those of its version-id and its modifier. -/
theorem mem_render_iff {simple : SimpleElement} {c : Char} :
    c ∈ simple.render ↔
      c ∈ simple.versionId ∨ ∃ modifier ∈ simple.modifier, c = modifier.symbol := by
  obtain ⟨versionId, modifier⟩ := simple
  cases modifier with
  | none => simp [render]
  | some modifier => simp [render]

/-- Rendering adds no character but a modifier. -/
theorem not_mem_render {simple : SimpleElement} {c : Char} (hid : c ∉ simple.versionId)
    (hsymbol : ∀ modifier : Modifier, c ≠ modifier.symbol) : c ∉ simple.render := by
  intro hc
  rcases mem_render_iff.1 hc with hc | ⟨modifier, -, hc⟩
  · exact hid hc
  · exact hsymbol modifier hc

end SimpleElement

namespace Element

variable {element : Element}

/-- The pieces of a rendered element are its rendered simple-elements. -/
theorem pieces_render (h : element.Separable) :
    pieces element.render = element.simpleElements.map SimpleElement.render := by
  refine Text.spans_join ?_ (by simpa using h.ne_nil)
  rw [List.forall_mem_map]
  intro simple hsimple
  exact SimpleElement.not_mem_render (h.no_ampersand simple hsimple)
    (Modifier.forall_iff.2 ⟨by decide, by decide⟩)

/-- A rendered element holds no space, since none of its pieces does. -/
theorem space_not_mem_render (h : element.Separable) : ' ' ∉ element.render := by
  intro hspace
  obtain ⟨piece, hpiece, hmem⟩ :=
    ((Text.cut_spans (· == '&') element.render).mem_iff ' ').2 ⟨hspace, by decide⟩
  change piece ∈ pieces element.render at hpiece
  rw [pieces_render h] at hpiece
  obtain ⟨simple, hsimple, rfl⟩ := List.mem_map.1 hpiece
  exact SimpleElement.not_mem_render (h.no_space simple hsimple)
    (Modifier.forall_iff.2 ⟨by decide, by decide⟩) hmem

end Element

/-- The pieces of a rendered version-string are its rendered elements. Without elements there is
still one piece, the empty one. -/
theorem VersionString.pieces_render {versionString : VersionString}
    (h : versionString.Separable) (hne : versionString.elements ≠ []) :
    pieces versionString.render = versionString.elements.map Element.render := by
  refine Text.spans_join ?_ (by simpa using hne)
  rw [List.forall_mem_map]
  intro element helement
  exact Element.space_not_mem_render (h element helement)

/-! ## Reading a text -/

/-- Each value that is read from the items of a list is read from one of them. -/
theorem mem_of_map_m {α : Type} {read : Text → Option α} {texts : List Text} {values : List α}
    (h : texts.mapM read = some values) :
    ∀ value ∈ values, ∃ text ∈ texts, read text = some value := by
  induction texts generalizing values with
  | nil =>
      cases h
      simp
  | cons text texts ih =>
      simp only [List.mapM_cons, Option.bind_eq_bind, Option.bind_eq_some_iff, Option.pure_def,
        Option.some.injEq] at h
      obtain ⟨first, hfirst, rest, hrest, rfl⟩ := h
      rw [List.forall_mem_cons]
      refine ⟨⟨text, by simp, hfirst⟩, ?_⟩
      intro value hvalue
      obtain ⟨later, hlater, hread⟩ := ih hrest value hvalue
      exact ⟨later, by simp [hlater], hread⟩

/-- Reading the items of a list that is not empty gives values. -/
theorem ne_nil_of_map_m {α : Type} {read : Text → Option α} {texts : List Text} {values : List α}
    (h : texts.mapM read = some values) (hne : texts ≠ []) : values ≠ [] := by
  cases texts with
  | nil => exact absurd rfl hne
  | cons text texts =>
      simp only [List.mapM_cons, Option.bind_eq_bind, Option.bind_eq_some_iff, Option.pure_def,
        Option.some.injEq] at h
      obtain ⟨first, -, rest, -, rfl⟩ := h
      simp

/-- An element that is read from a text without spaces is separable. -/
theorem Element.separable_of_text {text : Text} {element : Element}
    (h : Element.ofText? text = some element) (hspace : ' ' ∉ text) : element.Separable := by
  obtain ⟨simples, hread, rfl⟩ := Option.map_eq_some_iff.1 h
  -- A character of a version-id stands in one of the pieces, and with it in the text.
  have hmem : ∀ simple ∈ simples, ∀ c ∈ simple.versionId, c ∈ text ∧ (c == '&') = false := by
    intro simple hsimple c hc
    obtain ⟨piece, hpiece, hpieceRead⟩ := mem_of_map_m hread simple hsimple
    have hrender := (SimpleElement.of_text_eq_some_iff.1 hpieceRead).2.1
    have hcPiece : c ∈ piece := hrender ▸ SimpleElement.mem_render_iff.2 (.inl hc)
    exact ((Text.cut_spans (· == '&') text).mem_iff c).1 ⟨piece, hpiece, hcPiece⟩
  refine ⟨ne_nil_of_map_m hread (Text.spans_ne_nil _ text), ?_, ?_⟩
  · intro simple hsimple hc
    exact hspace (hmem simple hsimple ' ' hc).1
  · intro simple hsimple hc
    exact absurd (hmem simple hsimple '&' hc).2 (by decide)

/-- A version-string that is read from a text is separable, however malformed the text. -/
theorem VersionString.separable_of_text {text : Text} {versionString : VersionString}
    (h : VersionString.ofText? text = some versionString) : versionString.Separable := by
  obtain ⟨elements, hread, rfl⟩ := Option.map_eq_some_iff.1 h
  intro element helement
  obtain ⟨piece, hpiece, hpieceRead⟩ := mem_of_map_m hread element helement
  exact Element.separable_of_text hpieceRead (Text.not_mem_of_mem_spans hpiece)

end VersionMatch
