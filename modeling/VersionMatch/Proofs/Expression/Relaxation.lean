import VersionMatch.Proofs.Expression.Pointwise

/-!
# Changing the modifiers of a version-string

A modifier relaxes a version-id, except for milestone builds: these meet a modified version-id only
if they are spelled like it, and then they meet the version-id without a modifier as well. Each such
fact about one simple-element carries over to a version-string in which any number of
simple-elements are changed. `acceptance_of_variants` collects what adding, exchanging and removing
modifiers does to the acceptance of a release.
-/

namespace VersionMatch

open Grammar (IsVersionId)
open Requirement (isAcceptable meetsAll)
open VersionId (Equal)

/-! ## Changes of modifiers -/

namespace Modifier

/-- A modifier where there was none. -/
def Added (earlier later : Option Modifier) : Prop :=
  earlier = none ∧ later ≠ none

/-- A modifier in the place of a modifier. -/
def Exchanged (earlier later : Option Modifier) : Prop :=
  earlier ≠ none ∧ later ≠ none

/-- No modifier where there was one. -/
def Removed (earlier later : Option Modifier) : Prop :=
  earlier ≠ none ∧ later = none

end Modifier

/-! ## Simple-elements with and without a modifier -/

namespace SimpleElement

variable {release versionId : Text} {modifier : Modifier}

/-- Without a modifier, a release must be equal to the version-id. -/
theorem accepts_plain_iff (hid : IsVersionId versionId) :
    accepts ⟨versionId, none⟩ release = true ↔ release ≠ [] ∧ Equal release versionId :=
  Requirement.meets_plain_iff hid.ne_nil hid.get_last_ne_symbol

/-- A milestone build must be spelled like a version-id with a modifier. -/
theorem accepts_milestone_iff (hmilestone : '-' ∈ release) :
    accepts ⟨versionId, some modifier⟩ release = true ↔ release = versionId := by
  have hrelease : release ≠ [] := List.ne_nil_of_mem hmilestone
  show Requirement.meets release (versionId ++ [modifier.symbol]) = true ↔ _
  rw [Requirement.meets_modified_iff]
  constructor
  · intro ⟨_, _, h⟩
    rcases h with ⟨_, heq⟩ | ⟨hnot, _⟩
    · exact heq
    · exact absurd hmilestone hnot
  · intro heq
    exact ⟨hrelease, heq ▸ hrelease, .inl ⟨hmilestone, heq⟩⟩

/-- Any other release that is equal to a version-id meets it with either modifier. -/
theorem accepts_modified_of_equal (hrelease : release ≠ []) (hid : versionId ≠ [])
    (hmilestone : '-' ∉ release) (hequal : Equal release versionId) :
    accepts ⟨versionId, some modifier⟩ release = true := by
  show Requirement.meets release (versionId ++ [modifier.symbol]) = true
  refine Requirement.meets_modified_iff.2 ⟨hrelease, hid, .inr ⟨hmilestone, ?_⟩⟩
  cases modifier with
  | prefixMatch => exact .inl ⟨rfl, hequal.agree⟩
  | atLeast => exact .inr ⟨rfl, .inl hequal⟩

/-- A version-id accepts itself, with and without a modifier. -/
theorem accepts_self (hid : IsVersionId versionId) (modifier : Option Modifier) :
    accepts ⟨versionId, modifier⟩ versionId = true := by
  cases modifier with
  | none => exact (accepts_plain_iff hid).2 ⟨hid.ne_nil, Equal.refl versionId⟩
  | some modifier =>
      by_cases hmilestone : '-' ∈ versionId
      · exact (accepts_milestone_iff hmilestone).2 rfl
      · exact accepts_modified_of_equal hid.ne_nil hid.ne_nil hmilestone (Equal.refl versionId)

variable {simple changed : SimpleElement}

/-- A modifier in addition keeps the releases that are no milestone builds. -/
theorem accepts_of_added (hmilestone : '-' ∉ release) (hid : IsVersionId simple.versionId)
    (hvariant : simple.Variant Modifier.Added changed) (haccepts : simple.accepts release = true) :
    changed.accepts release = true := by
  obtain ⟨versionId, modifier⟩ := simple
  obtain ⟨laterId, later⟩ := changed
  obtain ⟨rfl, rfl | ⟨rfl, hlater⟩⟩ := hvariant
  · exact haccepts
  · obtain ⟨modifier, rfl⟩ := Option.ne_none_iff_exists'.1 hlater
    obtain ⟨hrelease, hequal⟩ := (accepts_plain_iff hid).1 haccepts
    exact accepts_modified_of_equal hrelease hid.ne_nil hmilestone hequal

/-- For milestone builds the two modifiers are the same. -/
theorem accepts_of_exchanged (hmilestone : '-' ∈ release)
    (hvariant : simple.Variant Modifier.Exchanged changed) :
    changed.accepts release = simple.accepts release := by
  obtain ⟨versionId, modifier⟩ := simple
  obtain ⟨laterId, later⟩ := changed
  obtain ⟨rfl, rfl | ⟨hearlier, hlater⟩⟩ := hvariant
  · rfl
  · obtain ⟨modifier, rfl⟩ := Option.ne_none_iff_exists'.1 hearlier
    obtain ⟨other, rfl⟩ := Option.ne_none_iff_exists'.1 hlater
    rw [Bool.eq_iff_iff, accepts_milestone_iff hmilestone, accepts_milestone_iff hmilestone]

/-- Taking a modifier off keeps milestone builds. -/
theorem accepts_of_removed (hmilestone : '-' ∈ release) (hid : IsVersionId simple.versionId)
    (hvariant : simple.Variant Modifier.Removed changed)
    (haccepts : simple.accepts release = true) : changed.accepts release = true := by
  obtain ⟨versionId, modifier⟩ := simple
  obtain ⟨laterId, later⟩ := changed
  obtain ⟨rfl, rfl | ⟨hearlier, rfl⟩⟩ := hvariant
  · exact haccepts
  · obtain ⟨modifier, rfl⟩ := Option.ne_none_iff_exists'.1 hearlier
    -- With a modifier, only the release that is spelled like the version-id was accepted.
    obtain rfl := (accepts_milestone_iff hmilestone).1 haccepts
    exact accepts_self hid none

/-- The text of a simple-element with a version-id of the grammar is a version-string that accepts
what the simple-element does. -/
theorem is_acceptable_render (hid : IsVersionId simple.versionId) :
    isAcceptable release simple.render = simple.accepts release := by
  have hwellFormed : VersionString.WellFormed ⟨[⟨[simple]⟩]⟩ := by
    refine ⟨by simp, ?_⟩
    rw [List.forall_mem_singleton]
    exact ⟨by simp, by simpa using hid⟩
  have hrender : VersionString.render ⟨[⟨[simple]⟩]⟩ = simple.render := by
    simp [VersionString.render, Element.render, Text.join]
  rw [← hrender, ← VersionString.accepts_eq_is_acceptable hwellFormed.separable,
    Bool.eq_iff_iff, VersionString.accepts_iff]
  simp [Element.accepts]

end SimpleElement

/-! ## Version-strings -/

namespace VersionString

variable {versionString changed : VersionString} {release : Text}

/-- Modifiers in addition keep the releases that are no milestone builds. -/
theorem accepts_of_added (hmilestone : '-' ∉ release) (h : versionString.WellFormed)
    (hvariant : versionString.Pointwise (SimpleElement.Variant Modifier.Added) changed)
    (haccepts : versionString.accepts release = true) : changed.accepts release = true := by
  refine (h.pointwise hvariant).accepts ?_ haccepts
  intro simple later hrelated
  exact SimpleElement.accepts_of_added hmilestone hrelated.1 hrelated.2

/-- For milestone builds the two modifiers are the same, wherever they stand. -/
theorem accepts_of_exchanged (hmilestone : '-' ∈ release)
    (hvariant : versionString.Pointwise (SimpleElement.Variant Modifier.Exchanged) changed) :
    changed.accepts release = versionString.accepts release := by
  refine hvariant.accepts_eq ?_
  intro simple later hrelated
  exact SimpleElement.accepts_of_exchanged hmilestone hrelated

/-- Taking modifiers off keeps milestone builds. -/
theorem accepts_of_removed (hmilestone : '-' ∈ release) (h : versionString.WellFormed)
    (hvariant : versionString.Pointwise (SimpleElement.Variant Modifier.Removed) changed)
    (haccepts : versionString.accepts release = true) : changed.accepts release = true := by
  refine (h.pointwise hvariant).accepts ?_ haccepts
  intro simple later hrelated
  exact SimpleElement.accepts_of_removed hmilestone hrelated.1 hrelated.2

/-- A milestone build is spelled like all version-ids with a modifier in an element that accepts
it. -/
theorem version_id_eq_of_meets_all {element : Element} (hmilestone : '-' ∈ release)
    (h : element.WellFormed) (hmeets : meetsAll release element.render = true) :
    ∀ simple ∈ element.simpleElements, simple.modifier ≠ none → simple.versionId = release := by
  intro simple hsimple hmodified
  rw [← Element.accepts_eq_meets_all h.separable, Element.accepts, List.all_eq_true] at hmeets
  have haccepts := hmeets simple hsimple
  obtain ⟨versionId, modifier⟩ := simple
  obtain ⟨modifier, rfl⟩ := Option.ne_none_iff_exists'.1 hmodified
  exact ((SimpleElement.accepts_milestone_iff hmilestone).1 haccepts).symm

/-- Changing modifiers of a parsed version-string gives a version-string that is parsed from its
text. A release that is no milestone build stays acceptable when modifiers are added. For a milestone
build it makes no difference to exchange modifiers, it stays acceptable when some are removed, and an
element that accepts it has no other version-id with a modifier. A release that is a version-id
itself is acceptable to its text, with and without a modifier. -/
theorem acceptance_of_variants {text : Text} {versionString : VersionString} {release : Text}
    (hparse : parse (some text) = .ok versionString) :
    (∀ change changed, versionString.Pointwise (SimpleElement.Variant change) changed →
      parse (some changed.render) = .ok changed) ∧
    ('-' ∉ release →
      ∀ changed, versionString.Pointwise (SimpleElement.Variant Modifier.Added) changed →
        isAcceptable release text = true → isAcceptable release changed.render = true) ∧
    ('-' ∈ release →
      (∀ changed, versionString.Pointwise (SimpleElement.Variant Modifier.Exchanged) changed →
        isAcceptable release changed.render = isAcceptable release text) ∧
      (∀ changed, versionString.Pointwise (SimpleElement.Variant Modifier.Removed) changed →
        isAcceptable release text = true → isAcceptable release changed.render = true) ∧
      ∀ element ∈ versionString.elements, meetsAll release element.render = true →
        ∀ simple ∈ element.simpleElements, simple.modifier ≠ none →
          simple.versionId = release) ∧
    (IsVersionId release →
      isAcceptable release release = true ∧ isAcceptable release (release ++ ['+']) = true ∧
      isAcceptable release (release ++ ['*']) = true) := by
  obtain ⟨hwellFormed, rfl⟩ := well_formed_of_parse hparse
  have hchanged : ∀ change changed,
      versionString.Pointwise (SimpleElement.Variant change) changed →
      isAcceptable release changed.render = changed.accepts release := by
    intro change changed hvariant
    exact (accepts_eq_is_acceptable (hwellFormed.variant hvariant).separable release).symm
  rw [← accepts_eq_is_acceptable hwellFormed.separable]
  refine ⟨?_, ?_, ?_, ?_⟩
  · intro change changed hvariant
    exact parse_render (hwellFormed.variant hvariant)
  · intro hmilestone changed hvariant
    rw [hchanged _ changed hvariant]
    exact accepts_of_added hmilestone hwellFormed hvariant
  · intro hmilestone
    refine ⟨?_, ?_, ?_⟩
    · intro changed hvariant
      rw [hchanged _ changed hvariant]
      exact accepts_of_exchanged hmilestone hvariant
    · intro changed hvariant
      rw [hchanged _ changed hvariant]
      exact accepts_of_removed hmilestone hwellFormed hvariant
    · intro element helement
      exact version_id_eq_of_meets_all hmilestone (hwellFormed.elements element helement)
  · intro hid
    have hself : ∀ modifier, isAcceptable release (SimpleElement.render ⟨release, modifier⟩) =
        true := by
      intro modifier
      rw [SimpleElement.is_acceptable_render hid]
      exact SimpleElement.accepts_self hid modifier
    exact ⟨hself none, hself (some .atLeast), hself (some .prefixMatch)⟩

/-- The text `1.8 2-ea+` accepts `1.8.0`, and so does `1.8* 2-ea+`. It accepts the milestone build
`2-ea`, and so do `1.8 2-ea*`, `1.8 2-ea` and all texts made of this release alone. -/
theorem acceptance_of_variants_milestone :
    parse (some ['1', '.', '8', ' ', '2', '-', 'e', 'a', '+']) =
      .ok ⟨[⟨[⟨['1', '.', '8'], none⟩]⟩, ⟨[⟨['2', '-', 'e', 'a'], some .atLeast⟩]⟩]⟩ ∧
    isAcceptable ['1', '.', '8', '.', '0'] ['1', '.', '8', '*', ' ', '2', '-', 'e', 'a', '+'] =
      true ∧
    isAcceptable ['2', '-', 'e', 'a'] ['1', '.', '8', ' ', '2', '-', 'e', 'a', '*'] = true ∧
    isAcceptable ['2', '-', 'e', 'a'] ['1', '.', '8', ' ', '2', '-', 'e', 'a'] = true ∧
    isAcceptable ['2', '-', 'e', 'a'] ['2', '-', 'e', 'a', '*'] = true := by
  have hparse : parse (some ['1', '.', '8', ' ', '2', '-', 'e', 'a', '+']) =
      .ok ⟨[⟨[⟨['1', '.', '8'], none⟩]⟩, ⟨[⟨['2', '-', 'e', 'a'], some .atLeast⟩]⟩]⟩ := rfl
  have hid : IsVersionId ['2', '-', 'e', 'a'] :=
    VersionId.is_version_id_iff_components.2 ⟨by decide, by simp [VersionId.forbidden]⟩
  have hsame : ∀ {change} (simple : SimpleElement), simple.Variant change simple :=
    fun simple => ⟨rfl, .inl rfl⟩
  obtain ⟨-, hadded, -, -⟩ := @acceptance_of_variants _ _ ['1', '.', '8', '.', '0'] hparse
  obtain ⟨-, -, hmilestone, hself⟩ :=
    @acceptance_of_variants _ _ ['2', '-', 'e', 'a'] hparse
  obtain ⟨hexchanged, hremoved, -⟩ := hmilestone (by decide)
  refine ⟨hparse, ?_, ?_, ?_, (hself hid).2.2⟩
  · refine hadded (by decide)
      ⟨[⟨[⟨['1', '.', '8'], some .prefixMatch⟩]⟩, ⟨[⟨['2', '-', 'e', 'a'], some .atLeast⟩]⟩]⟩
      ?_ (by decide)
    exact .cons (.cons ⟨rfl, .inr ⟨rfl, nofun⟩⟩ .nil) (.cons (.cons (hsame _) .nil) .nil)
  · refine (hexchanged
      ⟨[⟨[⟨['1', '.', '8'], none⟩]⟩, ⟨[⟨['2', '-', 'e', 'a'], some .prefixMatch⟩]⟩]⟩ ?_).trans
      (by decide)
    exact .cons (.cons (hsame _) .nil) (.cons (.cons ⟨rfl, .inr ⟨nofun, nofun⟩⟩ .nil) .nil)
  · refine hremoved ⟨[⟨[⟨['1', '.', '8'], none⟩]⟩, ⟨[⟨['2', '-', 'e', 'a'], none⟩]⟩]⟩
      ?_ (by decide)
    exact .cons (.cons (hsame _) .nil) (.cons (.cons ⟨rfl, .inr ⟨nofun, rfl⟩⟩ .nil) .nil)

end VersionString

end VersionMatch
