import Mathlib.Data.List.Forall2
import VersionMatch.Proofs.Expression.Acceptance
import VersionMatch.Proofs.Expression.Parse

/-!
# Version-strings of the same shape

Two version-strings have the same shape if the simple-elements of one can be matched with those of
the other, place by place. What holds between the matched simple-elements then carries over: if each
accepts no less than its partner, the version-string accepts no less either, and if each has the
version-id of its partner, the version-string stays well-formed.
-/

namespace VersionMatch

open Grammar (IsVersionId)

/-! ## Matched simple-elements -/

/-- A simple-element with the version-id of another one, and with its modifier as well unless a
change puts a different one in its place. -/
structure SimpleElement.Variant (change : Option Modifier → Option Modifier → Prop)
    (simple other : SimpleElement) : Prop where
  version_id : other.versionId = simple.versionId
  modifier : other.modifier = simple.modifier ∨ change simple.modifier other.modifier

/-- Elements with the same number of simple-elements, each of which is related to the one at its
place. -/
def Element.Pointwise (relation : SimpleElement → SimpleElement → Prop)
    (element other : Element) : Prop :=
  List.Forall₂ relation element.simpleElements other.simpleElements

/-- Version-strings with the same number of elements, with the simple-elements of each related to
those of the one at its place. -/
def VersionString.Pointwise (relation : SimpleElement → SimpleElement → Prop)
    (versionString other : VersionString) : Prop :=
  List.Forall₂ (Element.Pointwise relation) versionString.elements other.elements

/-! ## What is accepted -/

section Pointwise

variable {relation : SimpleElement → SimpleElement → Prop} {release later : Text}

/-- Every item of the second of two related lists has a partner in the first one. -/
theorem exists_mem_of_forall_two {α β : Type} {related : α → β → Prop} {xs : List α} {ys : List β}
    (h : List.Forall₂ related xs ys) : ∀ y ∈ ys, ∃ x ∈ xs, related x y := by
  induction h with
  | nil => simp
  | cons hfirst _ ih =>
      rw [List.forall_mem_cons]
      refine ⟨⟨_, by simp, hfirst⟩, ?_⟩
      intro y hy
      obtain ⟨x, hx, hrelated⟩ := ih y hy
      exact ⟨x, by simp [hx], hrelated⟩

/-- A list that is related to one that is not empty is not empty either. -/
theorem ne_nil_of_forall_two {α β : Type} {related : α → β → Prop} {xs : List α} {ys : List β}
    (h : List.Forall₂ related xs ys) (hne : xs ≠ []) : ys ≠ [] := by
  rintro rfl
  exact hne (List.forall₂_nil_right_iff.1 h)

/-- If every simple-element is replaced by one that accepts no less, so is the element. What it has
to accept may be another release. -/
theorem Element.Pointwise.accepts {element other : Element} (h : element.Pointwise relation other)
    (hrelation : ∀ simple changed, relation simple changed →
      simple.accepts release = true → changed.accepts later = true)
    (haccepts : element.accepts release = true) : other.accepts later = true := by
  rw [Element.accepts, List.all_eq_true] at haccepts ⊢
  intro changed hchanged
  obtain ⟨simple, hsimple, hrelated⟩ := exists_mem_of_forall_two h changed hchanged
  exact hrelation simple changed hrelated (haccepts simple hsimple)

namespace VersionString

variable {versionString other : VersionString}

/-- A version-string accepts a release if one of its elements does. -/
theorem accepts_iff : versionString.accepts release = true ↔
    ∃ element ∈ versionString.elements, element.accepts release = true := by
  rw [accepts, matchingElement, List.find?_isSome]

/-- If every simple-element is replaced by one that accepts no less, so is the version-string. -/
theorem Pointwise.accepts (h : versionString.Pointwise relation other)
    (hrelation : ∀ simple changed, relation simple changed →
      simple.accepts release = true → changed.accepts later = true)
    (haccepts : versionString.accepts release = true) : other.accepts later = true := by
  rw [accepts_iff] at haccepts ⊢
  obtain ⟨element, helement, haccepts⟩ := haccepts
  -- Here the partner of an element of the first list is needed, so the lists change sides.
  obtain ⟨changed, hchanged, hrelated⟩ :=
    exists_mem_of_forall_two (List.Forall₂.flip h) element helement
  exact ⟨changed, hchanged, Element.Pointwise.accepts hrelated hrelation haccepts⟩

/-- The relation of simple-elements can be read from either side. -/
theorem Pointwise.symm (h : versionString.Pointwise relation other) :
    other.Pointwise (flip relation) versionString := by
  refine List.Forall₂.flip (List.Forall₂.imp ?_ h)
  intro element changed hrelated
  exact List.Forall₂.flip hrelated

/-- If every simple-element is replaced by one that accepts the same, so is the version-string. -/
theorem Pointwise.accepts_eq (h : versionString.Pointwise relation other)
    (hrelation : ∀ simple changed, relation simple changed →
      changed.accepts later = simple.accepts release) :
    other.accepts later = versionString.accepts release := by
  rw [Bool.eq_iff_iff]
  constructor
  · refine h.symm.accepts ?_
    intro changed simple hrelated haccepts
    rwa [← hrelation simple changed hrelated]
  · refine h.accepts ?_
    intro simple changed hrelated haccepts
    rwa [hrelation simple changed hrelated]

end VersionString

end Pointwise

/-! ## Well-formed version-strings -/

section WellFormed

variable {relation : SimpleElement → SimpleElement → Prop}
variable {change : Option Modifier → Option Modifier → Prop}
variable {versionString other : VersionString}

/-- In a well-formed version-string the related simple-elements have version-ids of the grammar. -/
theorem VersionString.WellFormed.pointwise (h : versionString.WellFormed)
    (hpointwise : versionString.Pointwise relation other) :
    versionString.Pointwise
      (fun simple changed => IsVersionId simple.versionId ∧ relation simple changed) other := by
  have helements := (List.forall₂_and_left _ _).2 ⟨h.elements, hpointwise⟩
  refine List.Forall₂.imp ?_ helements
  intro element changed hrelated
  exact (List.forall₂_and_left _ _).2 ⟨hrelated.1.version_ids, hrelated.2⟩

/-- Putting version-ids of the grammar in the places of such leaves a version-string
well-formed. -/
theorem VersionString.WellFormed.of_pointwise (h : versionString.WellFormed)
    (hpointwise : versionString.Pointwise relation other)
    (hrelation : ∀ simple changed, relation simple changed →
      IsVersionId simple.versionId → IsVersionId changed.versionId) : other.WellFormed := by
  refine ⟨ne_nil_of_forall_two hpointwise h.ne_nil, ?_⟩
  intro changed hchanged
  obtain ⟨element, helement, hrelated⟩ := exists_mem_of_forall_two hpointwise changed hchanged
  have hwellFormed := h.elements element helement
  refine ⟨ne_nil_of_forall_two hrelated hwellFormed.ne_nil, ?_⟩
  intro later hlater
  obtain ⟨simple, hsimple, hsame⟩ := exists_mem_of_forall_two hrelated later hlater
  exact hrelation simple later hsame (hwellFormed.version_ids simple hsimple)

/-- Changing modifiers leaves a version-string well-formed. -/
theorem VersionString.WellFormed.variant (h : versionString.WellFormed)
    (hvariant : versionString.Pointwise (SimpleElement.Variant change) other) :
    other.WellFormed := by
  refine h.of_pointwise hvariant ?_
  intro simple changed hsame hid
  rw [hsame.version_id]
  exact hid

theorem VersionString.WellFormed.separable (h : versionString.WellFormed) :
    versionString.Separable :=
  fun element helement => (h.elements element helement).separable

end WellFormed

end VersionMatch
