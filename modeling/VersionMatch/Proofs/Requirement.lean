import VersionMatch.Proofs.Expression.Basic
import VersionMatch.Proofs.VersionId
import VersionMatch.Query

/-!
# What releases a version-string accepts

`Accepts` gives the rules for a single simple-element and `AcceptsAll` those for an element, both
on pieces that are described and not computed. The main statement,
`acceptable_iff_exists_element`, says of every release and every text, well-formed or not, that
the search finds the first piece between spaces that the rules accept, and that the release is
acceptable exactly if there is one.
-/

namespace VersionMatch.Requirement

open VersionId (Equal Newer Agree)

/-- `Accepts release simple` says that a release meets the text of a simple-element. -/
inductive Accepts (release : Text) : Text → Prop where
  | exact (simple) :
      release ≠ [] → simple ≠ [] → simple.getLast? ≠ some '+' → simple.getLast? ≠ some '*' →
      Equal release simple → Accepts release simple
  | milestone (versionId modifier) :
      modifier = '+' ∨ modifier = '*' → versionId ≠ [] → '-' ∈ release → release = versionId →
      Accepts release (versionId ++ [modifier])
  | prefixMatch (versionId) :
      release ≠ [] → versionId ≠ [] → '-' ∉ release → Agree release versionId →
      Accepts release (versionId ++ ['*'])
  | atLeast (versionId) :
      release ≠ [] → versionId ≠ [] → '-' ∉ release →
      Equal release versionId ∨ Newer release versionId →
      Accepts release (versionId ++ ['+'])

/-- `AcceptsAll release element` says that a release meets each piece between the ampersands of
the text of an element. -/
def AcceptsAll (release element : Text) : Prop :=
  ∃ simples, Text.Cut (· == '&') element simples ∧ ∀ simple ∈ simples, Accepts release simple

/-! ## Simple-elements -/

theorem is_milestone_iff {release : Text} : isMilestone release = true ↔ '-' ∈ release := by
  simp [isMilestone]

/-- No release meets the empty simple-element. -/
theorem meets_nil (release : Text) : meets release [] = false := by
  simp [meets, SimpleElement.ofText?]

/-- A release meets a text without a modifier if the two are equal. -/
theorem meets_plain_iff {release simple : Text} (hne : simple ≠ [])
    (hplain : ∀ modifier : Modifier, simple.getLast? ≠ some modifier.symbol) :
    meets release simple = true ↔ release ≠ [] ∧ Equal release simple := by
  simp [meets, SimpleElement.of_text_plain hne hplain, VersionId.exact_difference_eq_zero_iff]

/-- A release meets a modified version-id if it is a milestone build spelled alike, or none and
the modifier lets it pass. -/
theorem meets_modified_iff {release versionId : Text} {modifier : Modifier} :
    meets release (versionId ++ [modifier.symbol]) = true ↔
      release ≠ [] ∧ versionId ≠ [] ∧
        ('-' ∈ release ∧ release = versionId ∨
          '-' ∉ release ∧
            (modifier = .prefixMatch ∧ Agree release versionId ∨
              modifier = .atLeast ∧ (Equal release versionId ∨ Newer release versionId))) := by
  simp only [meets, SimpleElement.of_text_modified, Bool.and_eq_true, Bool.not_eq_true',
    List.isEmpty_eq_false_iff, is_milestone_iff]
  by_cases hmilestone : '-' ∈ release
  · simp [hmilestone]
  · cases modifier <;> simp [hmilestone, VersionId.prefix_difference_eq_zero_iff,
      VersionId.exact_difference_nonneg_iff]

/-- A release that is no milestone build meets a version-id and `+` if it is not older. -/
theorem meets_at_least_iff {release versionId : Text} (hrelease : release ≠ [])
    (hid : versionId ≠ []) (hmilestone : '-' ∉ release) :
    meets release (versionId ++ ['+']) = true ↔
      0 ≤ VersionId.exactDifference release versionId := by
  show meets release (versionId ++ [Modifier.atLeast.symbol]) = true ↔ _
  rw [meets_modified_iff, VersionId.exact_difference_nonneg_iff]
  simp [hrelease, hid, hmilestone]

/-- A release that is no milestone build meets a version-id and `*` if the two agree as far as both
go. -/
theorem meets_prefix_match_iff {release versionId : Text} (hrelease : release ≠ [])
    (hid : versionId ≠ []) (hmilestone : '-' ∉ release) :
    meets release (versionId ++ ['*']) = true ↔
      VersionId.prefixDifference release versionId = 0 := by
  show meets release (versionId ++ [Modifier.prefixMatch.symbol]) = true ↔ _
  rw [meets_modified_iff, VersionId.prefix_difference_eq_zero_iff]
  simp [hrelease, hid, hmilestone]

/-- The rules describe what it means to meet a simple-element. -/
theorem meets_iff {release simple : Text} :
    meets release simple = true ↔ Accepts release simple := by
  constructor
  · intro h
    cases hread : SimpleElement.ofText? simple with
    | none => simp [meets, hread] at h
    | some read =>
        obtain ⟨hne, hrender, hplain⟩ := SimpleElement.of_text_eq_some_iff.1 hread
        obtain ⟨versionId, modifier⟩ := read
        cases modifier with
        | none =>
            have hplain := hplain rfl
            obtain ⟨hrelease, hequal⟩ := (meets_plain_iff hne hplain).1 h
            exact .exact simple hrelease hne (hplain .atLeast) (hplain .prefixMatch) hequal
        | some modifier =>
            -- The text is the version-id with the modifier behind it, as in the other rules.
            subst hrender
            obtain ⟨hrelease, hid, ⟨hmilestone, heq⟩ | ⟨hmilestone, hrelaxed⟩⟩ :=
              meets_modified_iff.1 h
            · refine .milestone versionId modifier.symbol ?_ hid hmilestone heq
              cases modifier <;> simp [Modifier.symbol]
            · rcases hrelaxed with ⟨rfl, hagree⟩ | ⟨rfl, hnewer⟩
              · exact .prefixMatch versionId hrelease hid hmilestone hagree
              · exact .atLeast versionId hrelease hid hmilestone hnewer
  · intro h
    cases h with
    | exact simple hrelease hne hplus hstar hequal =>
        exact (meets_plain_iff hne (Modifier.forall_iff.2 ⟨hplus, hstar⟩)).2 ⟨hrelease, hequal⟩
    | milestone versionId modifier hmodifier hid hmilestone heq =>
        obtain ⟨symbol, rfl⟩ : ∃ m : Modifier, modifier = m.symbol := by
          rcases hmodifier with rfl | rfl
          · exact ⟨.atLeast, rfl⟩
          · exact ⟨.prefixMatch, rfl⟩
        exact meets_modified_iff.2 ⟨heq ▸ hid, hid, .inl ⟨hmilestone, heq⟩⟩
    | prefixMatch versionId hrelease hid hmilestone hagree =>
        show meets release (versionId ++ [Modifier.prefixMatch.symbol]) = true
        exact meets_modified_iff.2 ⟨hrelease, hid, .inr ⟨hmilestone, .inl ⟨rfl, hagree⟩⟩⟩
    | atLeast versionId hrelease hid hmilestone hnewer =>
        show meets release (versionId ++ [Modifier.atLeast.symbol]) = true
        exact meets_modified_iff.2 ⟨hrelease, hid, .inr ⟨hmilestone, .inr ⟨rfl, hnewer⟩⟩⟩

/-! ## Elements and version-strings -/

/-- A release meets an element if it meets all of its pieces. -/
theorem meets_all_eq_all (release element : Text) :
    meetsAll release element = (Element.pieces element).all (meets release) := by
  rw [Bool.eq_iff_iff]
  simp [meetsAll, rejecting?]

/-- The rules describe what it means to meet an element. -/
theorem meets_all_iff {release element : Text} :
    meetsAll release element = true ↔ AcceptsAll release element := by
  simp only [AcceptsAll, Text.cut_iff, exists_eq_left']
  simp [meets_all_eq_all, Element.pieces, meets_iff]

/-- The search stops at the first element that the release meets. -/
theorem search_element_eq_find (release : Text) (elements : List Text) :
    (search release elements).element = elements.find? (meetsAll release) := by
  induction elements with
  | nil => rfl
  | cons element others ih =>
      rw [search, List.find?_cons, meetsAll]
      cases rejecting? release element with
      | none => rfl
      | some simple => exact ih

theorem matching_element_eq_find (release versionString : Text) :
    matchingElement release versionString =
      (VersionString.pieces versionString).find? (meetsAll release) :=
  search_element_eq_find release (VersionString.pieces versionString)

/-- The matching element is the first piece between spaces that the rules accept. -/
theorem matching_element_eq_some_iff {release versionString element : Text} :
    matchingElement release versionString = some element ↔
      ∃ before after, Text.Cut (· == ' ') versionString (before ++ element :: after) ∧
        AcceptsAll release element ∧ ∀ earlier ∈ before, ¬ AcceptsAll release earlier := by
  simp only [matching_element_eq_find, List.find?_eq_some_iff_append, meets_all_iff, Text.cut_iff,
    VersionString.pieces, Bool.not_eq_true', Bool.eq_false_iff, ne_eq]
  constructor
  · intro ⟨haccepts, before, after, hpieces, hbefore⟩
    exact ⟨before, after, hpieces, haccepts, hbefore⟩
  · intro ⟨before, after, hpieces, haccepts, hbefore⟩
    exact ⟨haccepts, before, after, hpieces, hbefore⟩

/-- A release is acceptable exactly if the rules accept it for some piece between the spaces of
the version-string, and the first such piece is the matching element. -/
theorem acceptable_iff_exists_element (release versionString : Option Text) :
    (Query.isAcceptable release versionString = true ↔
      ∃ elements, Text.Cut (· == ' ') (Text.orEmpty versionString) elements ∧
        ∃ element ∈ elements, AcceptsAll (Text.orEmpty release) element) ∧
    ∀ element, Query.matchingElement release versionString = some element ↔
      ∃ before after,
        Text.Cut (· == ' ') (Text.orEmpty versionString) (before ++ element :: after) ∧
        AcceptsAll (Text.orEmpty release) element ∧
        ∀ earlier ∈ before, ¬ AcceptsAll (Text.orEmpty release) earlier := by
  refine ⟨?_, fun element => matching_element_eq_some_iff⟩
  rw [Query.isAcceptable, Query.matchingElement, matching_element_eq_find, List.find?_isSome]
  simp only [Text.cut_iff, exists_eq_left', meets_all_iff, VersionString.pieces]

end VersionMatch.Requirement
