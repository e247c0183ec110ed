import VersionMatch.Proofs.Expression.Failure
import VersionMatch.Proofs.Expression.Violation

/-!
# Which problem of a text is reported

A text with several problems is reported for one of them. `Reported` says for which, as far as the
pieces are concerned: it is about the leftmost element that is not valid and there about the
leftmost simple-element that is not valid. Among the violations of its version-id a rule decides.
`problem_reported` shows that this rule is `Named`, the order of the kinds, and when it comes to the
same as the order of the places.
-/

namespace VersionMatch

open Grammar
open VersionId (InOrder Leftmost Named Violated)

/-- What a simple-element is reported for. `Rule` picks one of the violations of its version-id. -/
inductive SimpleElement.Reported (Rule : Text → Text → Problem → Prop) (simple : Text) :
    Problem → Prop where
  | empty : simple = [] → Reported Rule simple .emptySimpleElement
  | modifierAlone (modifier : Modifier) :
      simple = [modifier.symbol] → Reported Rule simple (.modifierAlone simple)
  | versionId (versionId modifier problem) :
      SimpleElement.ofText? simple = some ⟨versionId, modifier⟩ → versionId ≠ [] →
      Rule simple versionId problem → Reported Rule simple problem

/-- What a text is reported for that is checked piece by piece. No text at all is a problem of its
own, and otherwise the report is about the leftmost piece that is not valid. -/
inductive Problem.OfFirst (delimiter : Char) (empty : Problem) (Valid : Text → Prop)
    (Inner : Text → Problem → Prop) (text : Text) : Problem → Prop where
  | empty : text = [] → OfFirst delimiter empty Valid Inner text empty
  | piece (piece problem) :
      text ≠ [] → Text.FirstWithout (· == delimiter) Valid text piece → Inner piece problem →
      OfFirst delimiter empty Valid Inner text problem

/-- What an element is reported for. -/
def Element.Reported (Rule : Text → Text → Problem → Prop) : Text → Problem → Prop :=
  Problem.OfFirst '&' .emptyElement IsSimpleElement (SimpleElement.Reported Rule)

/-- What a version-string is reported for. -/
def VersionString.Reported (Rule : Text → Text → Problem → Prop) : Text → Problem → Prop :=
  Problem.OfFirst ' ' .emptyVersionString IsElement (Element.Reported Rule)

/-- `AtFault text simple versionId` says that `simple` is the leftmost simple-element that is not
valid in the leftmost element that is not valid, and that it has a version-id. -/
def VersionString.AtFault (text simple versionId : Text) : Prop :=
  ∃ element modifier, Text.FirstWithout (· == ' ') IsElement text element ∧
    Text.FirstWithout (· == '&') IsSimpleElement element simple ∧
    SimpleElement.ofText? simple = some ⟨versionId, modifier⟩ ∧ versionId ≠ []

variable {Rule Other : Text → Text → Problem → Prop} {text simple versionId : Text}
variable {problem : Problem}

/-! ## Reports of texts that are checked piece by piece -/

namespace Problem.OfFirst

variable {delimiter : Char} {empty : Problem} {Valid : Text → Prop}
variable {Inner Inner' : Text → Problem → Prop} {piece : Text}

/-- A check that finds the first problem of the pieces is reported by `OfFirst`. -/
theorem find_iff {inner : Text → Option Problem}
    (hvalid : ∀ piece, inner piece = none ↔ Valid piece)
    (hinner : ∀ piece problem, inner piece = some problem ↔ Inner piece problem) :
    (if text.isEmpty then some empty else (Text.spans (· == delimiter) text).findSome? inner) =
        some problem ↔
      OfFirst delimiter empty Valid Inner text problem := by
  constructor
  · intro h
    by_cases hnil : text = []
    · rw [List.isEmpty_iff.2 hnil, if_pos rfl] at h
      cases h
      exact .empty hnil
    · rw [List.isEmpty_eq_false_iff.2 hnil, if_neg Bool.false_ne_true,
        Text.find_some_eq_some_iff hvalid] at h
      obtain ⟨piece, hfirst, hproblem⟩ := h
      exact .piece piece problem hnil hfirst ((hinner piece problem).1 hproblem)
  · intro h
    cases h with
    | empty hnil => rw [List.isEmpty_iff.2 hnil, if_pos rfl]
    | piece piece _ hne hfirst hproblem =>
        rw [List.isEmpty_eq_false_iff.2 hne, if_neg Bool.false_ne_true,
          Text.find_some_eq_some_iff hvalid]
        exact ⟨piece, hfirst, (hinner piece problem).2 hproblem⟩

/-- A report only depends on what can be said of the leftmost piece that is not valid. -/
theorem imp (h : OfFirst delimiter empty Valid Inner text problem)
    (himp : ∀ piece, Text.FirstWithout (· == delimiter) Valid text piece → Inner piece problem →
      Inner' piece problem) :
    OfFirst delimiter empty Valid Inner' text problem := by
  cases h with
  | empty hnil => exact .empty hnil
  | piece piece _ hne hfirst hproblem =>
      exact .piece piece problem hne hfirst (himp piece hfirst hproblem)

/-- A report is about the leftmost piece that is not valid, if this is not empty. -/
theorem inner (h : OfFirst delimiter empty Valid Inner text problem)
    (hfirst : Text.FirstWithout (· == delimiter) Valid text piece) (hne : piece ≠ []) :
    Inner piece problem := by
  cases h with
  | empty hnil =>
      subst hnil
      exact absurd hfirst.eq_nil hne
  | piece other _ _ hother hproblem =>
      rw [hfirst.unique hother]
      exact hproblem

end Problem.OfFirst

/-! ## The problem that the checks find -/

theorem SimpleElement.problem_eq_some_iff :
    SimpleElement.problem? simple = some problem ↔ SimpleElement.Reported Named simple problem := by
  unfold SimpleElement.problem?
  cases hread : SimpleElement.ofText? simple with
  | none =>
      obtain rfl := Fallible.of_text_eq_none_iff.1 hread
      constructor
      · intro h
        cases h
        exact .empty rfl
      · intro h
        cases h with
        | empty => rfl
        | modifierAlone _ hsimple => cases hsimple
        | versionId _ _ _ hother => cases hother
  | some value =>
      obtain ⟨versionId, modifier⟩ := value
      obtain ⟨hne, hrender, -⟩ := SimpleElement.of_text_eq_some_iff.1 hread
      by_cases hnil : versionId = []
      · subst hnil
        constructor
        · intro h
          cases h
          -- There is a modifier, for the text would be empty without one.
          cases modifier with
          | none => exact absurd hrender.symm hne
          | some modifier => exact .modifierAlone modifier hrender.symm
        · intro h
          cases h with
          | empty hsimple => exact absurd hsimple hne
          | modifierAlone => rfl
          | versionId _ _ _ hother hid =>
              cases hread.symm.trans hother
              exact absurd rfl hid
      · rw [VersionId.problem_eq_some_iff hnil]
        constructor
        · exact .versionId versionId modifier problem hread hnil
        · intro h
          cases h with
          | empty hsimple => exact absurd hsimple hne
          | modifierAlone other hsimple =>
              rw [hsimple] at hread
              cases (SimpleElement.of_text_modified [] other).symm.trans hread
              exact absurd rfl hnil
          | versionId _ _ _ hother _ hnamed =>
              cases hread.symm.trans hother
              exact hnamed

theorem Element.problem_eq_some_iff (text : Text) (problem : Problem) :
    Element.problem? text = some problem ↔ Element.Reported Named text problem :=
  Problem.OfFirst.find_iff SimpleElement.problem_eq_none_iff fun _ _ =>
    SimpleElement.problem_eq_some_iff

theorem VersionString.problem_eq_some_iff :
    VersionString.problem? text = some problem ↔ VersionString.Reported Named text problem :=
  Problem.OfFirst.find_iff Element.problem_eq_none_iff Element.problem_eq_some_iff

/-! ## Reports by different rules -/

/-- Another rule gives the same report if it picks the same from the version-id at fault. -/
theorem VersionString.Reported.imp (h : VersionString.Reported Rule text problem)
    (himp : ∀ simple versionId, VersionString.AtFault text simple versionId →
      Rule simple versionId problem → Other simple versionId problem) :
    VersionString.Reported Other text problem := by
  refine Problem.OfFirst.imp h fun element helement hinner => ?_
  refine Problem.OfFirst.imp hinner fun simple hsimple hreported => ?_
  cases hreported with
  | empty hnil => exact .empty hnil
  | modifierAlone modifier hmodifier => exact .modifierAlone modifier hmodifier
  | versionId versionId modifier _ hread hne hrule =>
      have hfault : VersionString.AtFault text simple versionId :=
        ⟨element, modifier, helement, hsimple, hread, hne⟩
      exact .versionId versionId modifier problem hread hne (himp simple versionId hfault hrule)

/-- The report is what the rule picks from the version-id at fault, if there is one. -/
theorem VersionString.reported_iff_rule (hfault : VersionString.AtFault text simple versionId) :
    VersionString.Reported Rule text problem ↔ Rule simple versionId problem := by
  obtain ⟨element, modifier, helement, hsimple, hread, hne⟩ := hfault
  have hsimple_ne : simple ≠ [] := (SimpleElement.of_text_eq_some_iff.1 hread).1
  have helement_ne : element ≠ [] := by
    rintro rfl
    exact hsimple_ne hsimple.eq_nil
  constructor
  · intro h
    cases (Problem.OfFirst.inner h helement helement_ne).inner hsimple hsimple_ne with
    | empty hnil => exact absurd hnil hsimple_ne
    | modifierAlone other hother =>
        rw [hother] at hread
        cases (SimpleElement.of_text_modified [] other).symm.trans hread
        exact absurd rfl hne
    | versionId _ _ _ hother _ hrule =>
        cases hread.symm.trans hother
        exact hrule
  · intro hrule
    have htext_ne : text ≠ [] := by
      rintro rfl
      exact helement_ne helement.eq_nil
    exact .piece element problem htext_ne helement
      (.piece simple problem helement_ne hsimple (.versionId _ modifier problem hread hne hrule))

/-- A text that is a single simple-element without a modifier is the version-id at fault if it is
not valid. -/
theorem VersionString.at_fault_self (hread : SimpleElement.ofText? text = some ⟨text, none⟩)
    (hspace : ' ' ∉ text) (hampersand : '&' ∉ text) (hnot : Element.problem? text ≠ none)
    (hsimple : SimpleElement.problem? text ≠ none) : VersionString.AtFault text text text := by
  rw [ne_eq, Element.problem_eq_none_iff] at hnot
  rw [ne_eq, SimpleElement.problem_eq_none_iff] at hsimple
  exact ⟨text, none, .of_free (Text.forall_not_delimiter_iff.2 hspace) hnot,
    .of_free (Text.forall_not_delimiter_iff.2 hampersand) hsimple, hread,
    (SimpleElement.of_text_eq_some_iff.1 hread).1⟩

/-- The checks find a problem of the leftmost element and simple-element that are not valid, and of
the violations of its version-id the one whose kind comes first. This is the leftmost one exactly if
the order of the kinds agrees with the order of the places. -/
theorem problem_reported (text : Text) (problem : Problem) :
    (Query.problem? (some text) = some problem ↔ VersionString.Reported Named text problem) ∧
    (Query.problem? (some text) = some problem →
      (VersionString.Reported Leftmost text problem ↔
        ∀ simple versionId, VersionString.AtFault text simple versionId → InOrder versionId)) := by
  have hiff : Query.problem? (some text) = some problem ↔
      VersionString.Reported Named text problem := VersionString.problem_eq_some_iff
  refine ⟨hiff, fun hproblem => ?_⟩
  rw [hiff] at hproblem
  constructor
  · intro hleftmost simple versionId hfault
    rw [VersionString.reported_iff_rule hfault] at hproblem hleftmost
    exact (VersionId.leftmost_iff_in_order hproblem).1 hleftmost
  · intro horder
    refine hproblem.imp fun simple versionId hfault hnamed => ?_
    exact (VersionId.leftmost_iff_in_order hnamed).2 (horder simple versionId hfault)

/-- An asterisk is reported although a plus sign stands in front of it. -/
theorem problem_reported_behind_leftmost :
    Query.problem? (some "1+*2".toList) = some (.forbiddenCharacter '*' "1+*2".toList) ∧
    (Problem.forbiddenCharacter '*' "1+*2".toList).message =
      "forbidden character '*' in '1+*2'".toList ∧
    ¬ VersionString.Reported Leftmost "1+*2".toList (.forbiddenCharacter '*' "1+*2".toList) ∧
    VersionString.Reported Leftmost "1+*2".toList (.forbiddenCharacter '+' "1+*2".toList) := by
  have hfault : VersionString.AtFault "1+*2".toList "1+*2".toList "1+*2".toList :=
    VersionString.at_fault_self rfl (by decide) (by decide) (by decide) (by decide)
  have hplus : Violated "1+*2".toList "1+*2".toList (.forbiddenCharacter '+' "1+*2".toList) 1 :=
    .forbidden '+' 1 rfl (by decide)
  refine ⟨by decide, by decide, ?_, ?_⟩
  · rw [VersionString.reported_iff_rule hfault]
    intro ⟨i, hviolated, hall⟩
    have hle : i ≤ 1 := hall _ 1 hplus
    cases hviolated with
    | forbidden _ _ hget =>
        rcases Nat.le_one_iff_eq_zero_or_eq_one.1 hle with rfl | rfl
        · cases hget
        · cases hget
  · rw [VersionString.reported_iff_rule hfault]
    have hfront : ∀ other j, Violated "1+*2".toList (['1'] ++ ['+', '*', '2']) other j →
        ['1'].length ≤ j :=
      (VersionId.nothing_in_front_iff (List.cons_ne_nil _ _)).2
        ⟨by simp [VersionId.forbidden], rfl, rfl⟩
    exact ⟨1, hplus, hfront⟩

/-- A plus sign is reported instead of the separator at the beginning, and a separator at the end
instead of two in a row. -/
example : Query.problem? (some ".1+2".toList) = some (.forbiddenCharacter '+' ".1+2".toList) ∧
    Query.problem? (some "1..2.".toList) = some (.trailingSeparator "1..2.".toList) := by
  decide

end VersionMatch
