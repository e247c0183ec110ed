import VersionMatch.Proofs.Expression.Relaxation
import VersionMatch.Proofs.VersionId.Spelling

/-!
# Other spellings of releases and version-strings

Whether a simple-element accepts a release that is no milestone build is decided by one of the two
comparisons of version-ids. So `accepts_congr` carries over to acceptance what other spellings keep of
these: the exact comparison is the same when separators are exchanged and zeros appended, the prefix
comparison when only separators are exchanged. `acceptance_of_respellings` states this for other
spellings of a release and of the version-ids in a version-string.
-/

namespace VersionMatch

open Grammar (IsVersionId)
open Requirement (isAcceptable)
open VersionId (Reseparated Respelled exactDifference prefixDifference)

/-! ## Version-ids of the grammar -/

/-- Another spelling of a text is as empty as the text. -/
theorem VersionId.Respelled.ne_nil {a b : Text} (h : Respelled a b) (hne : a ≠ []) : b ≠ [] := by
  cases h with
  | reseparated b h => exact ne_nil_of_forall_two h hne
  | appended b separator _ _ => simp

/-- Another spelling of a version-id of the grammar is one as well. -/
theorem VersionId.Respelled.is_version_id {a b : Text} (h : Respelled a b) (ha : IsVersionId a) :
    IsVersionId b := by
  rw [Grammar.is_version_id_iff] at ha ⊢
  induction h with
  | reseparated b h => rwa [h.components_eq]
  | appended b separator _ hseparator ih =>
      rw [VersionId.components_append_zero b hseparator, List.forall_mem_append,
        List.forall_mem_singleton]
      exact ⟨ih, .single '0' (by simp [Grammar.IsChar])⟩

/-! ## Simple-elements -/

namespace SimpleElement

/-- A simple-element with another spelling of the version-id and the same modifier. Behind a `*`
nothing is appended. -/
structure Respelled (simple other : SimpleElement) : Prop where
  modifier : other.modifier = simple.modifier
  version_id : VersionId.Respelled simple.versionId other.versionId
  not_appended :
    simple.modifier = some .prefixMatch → Reseparated simple.versionId other.versionId

/-- A release that is no milestone build is accepted by the comparison that belongs to the
modifier. -/
theorem accepts_iff_of_not_milestone {simple : SimpleElement} {release : Text}
    (hrelease : release ≠ []) (hmilestone : '-' ∉ release) (hid : IsVersionId simple.versionId) :
    simple.accepts release = true ↔
      match simple.modifier with
      | none => exactDifference release simple.versionId = 0
      | some .atLeast => 0 ≤ exactDifference release simple.versionId
      | some .prefixMatch => prefixDifference release simple.versionId = 0 := by
  obtain ⟨versionId, modifier⟩ := simple
  match modifier with
  | none =>
      rw [accepts_plain_iff hid, VersionId.exact_difference_eq_zero_iff]
      exact and_iff_right hrelease
  | some .atLeast => exact Requirement.meets_at_least_iff hrelease hid.ne_nil hmilestone
  | some .prefixMatch => exact Requirement.meets_prefix_match_iff hrelease hid.ne_nil hmilestone

/-- Two simple-elements with the same modifier accept alike two releases that compare alike with
their version-ids. -/
theorem accepts_congr {simple changed : SimpleElement} {release other : Text}
    (hrelease : release ≠ [] ∧ '-' ∉ release) (hother : other ≠ [] ∧ '-' ∉ other)
    (hid : IsVersionId simple.versionId) (hchanged : IsVersionId changed.versionId)
    (hmodifier : changed.modifier = simple.modifier)
    (hexact : simple.modifier ≠ some .prefixMatch →
      exactDifference other changed.versionId = exactDifference release simple.versionId)
    (hcommon : simple.modifier = some .prefixMatch →
      prefixDifference other changed.versionId = prefixDifference release simple.versionId) :
    changed.accepts other = simple.accepts release := by
  rw [Bool.eq_iff_iff, accepts_iff_of_not_milestone hother.1 hother.2 hchanged,
    accepts_iff_of_not_milestone hrelease.1 hrelease.2 hid, hmodifier]
  match hkind : simple.modifier with
  | none => simp only [hexact (by simp [hkind])]
  | some .atLeast => simp only [hexact (by simp [hkind])]
  | some .prefixMatch => simp only [hcommon hkind]

end SimpleElement

/-! ## Version-strings -/

namespace VersionString

variable {versionString changed : VersionString} {release other : Text}

/-- A version-string has the same shape as itself. -/
theorem pointwise_self {relation : SimpleElement → SimpleElement → Prop}
    (h : ∀ element ∈ versionString.elements, ∀ simple ∈ element.simpleElements,
      relation simple simple) : versionString.Pointwise relation versionString := by
  refine List.forall₂_same.2 ?_
  intro element helement
  exact List.forall₂_same.2 (h element helement)

/-- Another spelling of a release is accepted alike, if nothing is appended where there is a `*` and
neither of them is a milestone build. -/
theorem WellFormed.accepts_of_respelled (h : versionString.WellFormed)
    (hrelease : release ≠ [] ∧ '-' ∉ release) (hother : '-' ∉ other)
    (hspelling : Respelled release other)
    (hnotAppended : ∀ element ∈ versionString.elements, ∀ simple ∈ element.simpleElements,
      simple.modifier = some .prefixMatch → Reseparated release other) :
    versionString.accepts other = versionString.accepts release := by
  have hself : versionString.Pointwise (fun simple later => IsVersionId simple.versionId ∧
      (simple.modifier = some .prefixMatch → Reseparated release other) ∧ later = simple)
      versionString := by
    refine h.pointwise (pointwise_self ?_)
    intro element helement simple hsimple
    exact ⟨hnotAppended element helement simple hsimple, rfl⟩
  refine hself.accepts_eq ?_
  rintro simple _ ⟨hid, hreseparated, rfl⟩
  refine SimpleElement.accepts_congr hrelease ⟨hspelling.ne_nil hrelease.1, hother⟩ hid hid rfl
    ?_ ?_
  · intro _
    exact (hspelling.exact_difference_eq _).1
  · intro hmatch
    exact ((hreseparated hmatch).prefix_difference_eq _).1

/-- Other spellings of the version-ids accept the same releases. -/
theorem WellFormed.accepts_of_pointwise (h : versionString.WellFormed)
    (hrelease : release ≠ [] ∧ '-' ∉ release)
    (hspelling : versionString.Pointwise SimpleElement.Respelled changed) :
    changed.accepts release = versionString.accepts release := by
  refine (h.pointwise hspelling).accepts_eq ?_
  rintro simple later ⟨hid, hsame⟩
  refine SimpleElement.accepts_congr hrelease hrelease hid (hsame.version_id.is_version_id hid)
    hsame.modifier ?_ ?_
  · intro _
    exact (hsame.version_id.exact_difference_eq release).2
  · intro hmatch
    exact ((hsame.not_appended hmatch).prefix_difference_eq release).2

/-- Another spelling of a text compares alike with every text, on either side, and keeps the result
of the prefix comparison as long as nothing is appended. Another spelling of a release, neither of
them a milestone build, is acceptable to the same texts of version-strings without `*`, and to the
same texts of any version-strings if nothing is appended. Another spelling of the version-ids of a
version-string, with nothing appended before a `*`, is parsed from its text, to which the same
releases are acceptable. -/
theorem acceptance_of_respellings :
    (∀ a b, Respelled a b → ∀ c, exactDifference b c = exactDifference a c ∧
      exactDifference c b = exactDifference c a) ∧
    (∀ a b, Reseparated a b → ∀ c, prefixDifference b c = prefixDifference a c ∧
      prefixDifference c b = prefixDifference c a) ∧
    ∀ release text versionString, release ≠ [] → '-' ∉ release →
      parse (some text) = .ok versionString →
      (∀ other, Respelled release other → '-' ∉ other →
        (∀ element ∈ versionString.elements, ∀ simple ∈ element.simpleElements,
          simple.modifier ≠ some .prefixMatch) →
        isAcceptable other text = isAcceptable release text) ∧
      (∀ other, Reseparated release other → '-' ∉ other →
        isAcceptable other text = isAcceptable release text) ∧
      ∀ changed, versionString.Pointwise SimpleElement.Respelled changed →
        parse (some changed.render) = .ok changed ∧
          isAcceptable release changed.render = isAcceptable release text := by
  refine ⟨fun a b h => h.exact_difference_eq, fun a b h => h.prefix_difference_eq, ?_⟩
  intro release text versionString hne hmilestone hparse
  obtain ⟨hwellFormed, rfl⟩ := well_formed_of_parse hparse
  simp only [← accepts_eq_is_acceptable hwellFormed.separable]
  refine ⟨?_, ?_, ?_⟩
  · intro other hspelling hother hmodifier
    refine hwellFormed.accepts_of_respelled ⟨hne, hmilestone⟩ hother hspelling ?_
    intro element helement simple hsimple hmatch
    exact absurd hmatch (hmodifier element helement simple hsimple)
  · intro other hspelling hother
    exact hwellFormed.accepts_of_respelled ⟨hne, hmilestone⟩ hother (.reseparated other hspelling)
      fun _ _ _ _ _ => hspelling
  · intro changed hspelling
    have hchanged : changed.WellFormed :=
      hwellFormed.of_pointwise hspelling fun _ _ hsame hid => hsame.version_id.is_version_id hid
    rw [← accepts_eq_is_acceptable hchanged.separable]
    exact ⟨parse_render hchanged, hwellFormed.accepts_of_pointwise ⟨hne, hmilestone⟩ hspelling⟩

/-- The release `1_9.0` is acceptable to `1.8+` since `1.9` is, and `1.9` to `1-8.0+`. Likewise
`1_7.2` is acceptable to `1.7*`, and `1.7.2` to `1_7*`. -/
theorem acceptance_of_respellings_zeros :
    exactDifference ['1', '_', '9', '.', '0'] ['1', '.', '8'] = 1 ∧
    prefixDifference ['1', '_', '9'] ['1', '.', '8'] = 1 ∧
    isAcceptable ['1', '_', '9', '.', '0'] ['1', '.', '8', '+'] = true ∧
    isAcceptable ['1', '_', '7', '.', '2'] ['1', '.', '7', '*'] = true ∧
    isAcceptable ['1', '.', '9'] ['1', '-', '8', '.', '0', '+'] = true ∧
    isAcceptable ['1', '.', '7', '.', '2'] ['1', '_', '7', '*'] = true := by
  have hunderscore : ∀ after : Text, Reseparated (['1', '.'] ++ after) (['1', '_'] ++ after) := by
    intro after
    exact .cons (.inl rfl) (.cons (.inr ⟨rfl, rfl⟩) (List.forall₂_same.2 fun _ _ => .inl rfl))
  have hnine : Respelled ['1', '.', '9'] ['1', '_', '9', '.', '0'] :=
    .appended _ '.' (.reseparated _ (hunderscore ['9'])) rfl
  have height : Respelled ['1', '.', '8'] ['1', '-', '8', '.', '0'] := by
    refine .appended ['1', '-', '8'] '.' (.reseparated _ ?_) rfl
    exact .cons (.inl rfl) (.cons (.inr ⟨rfl, rfl⟩) (.cons (.inl rfl) .nil))
  obtain ⟨hexact, hcommon, haccepts⟩ := acceptance_of_respellings
  obtain ⟨hatLeast, -, hatLeastChanged⟩ := haccepts ['1', '.', '9'] ['1', '.', '8', '+']
    ⟨[⟨[⟨['1', '.', '8'], some .atLeast⟩]⟩]⟩ nofun (by decide) rfl
  obtain ⟨-, hmatch, hmatchChanged⟩ := haccepts ['1', '.', '7', '.', '2'] ['1', '.', '7', '*']
    ⟨[⟨[⟨['1', '.', '7'], some .prefixMatch⟩]⟩]⟩ nofun (by decide) rfl
  refine ⟨(hexact _ _ hnine _).1.trans rfl, (hcommon _ _ (hunderscore ['9']) _).1.trans rfl,
    ?_, ?_, ?_, ?_⟩
  · exact (hatLeast _ hnine (by decide) (by simp)).trans (by decide)
  · exact (hmatch _ (hunderscore ['7', '.', '2']) (by decide)).trans (by decide)
  · refine (hatLeastChanged ⟨[⟨[⟨['1', '-', '8', '.', '0'], some .atLeast⟩]⟩]⟩ ?_).2.trans
      (by decide)
    exact .cons (.cons ⟨rfl, height, nofun⟩ .nil) .nil
  · refine (hmatchChanged ⟨[⟨[⟨['1', '_', '7'], some .prefixMatch⟩]⟩]⟩ ?_).2.trans (by decide)
    exact .cons (.cons
      ⟨rfl, .reseparated _ (hunderscore ['7']), fun _ => hunderscore ['7']⟩ .nil) .nil

end VersionString

end VersionMatch
