import VersionMatch.Proofs.Expression.Parse

/-!
# What can fail in the checks and in parsing

To look at the first or the last character of a text fails on the empty text, and to make a modifier
of a character fails unless it is written like one. The checks and the parser take such steps, and
only the order in which they are taken keeps them from failing. `Fallible` writes the checks and the
parser out with every step that can fail, and `parse_fails_iff_problem` concludes that none of
these steps ever does: the checks answer for every text, and parsing fails on texts with a problem
only, each time with this problem and the text itself.
-/

namespace VersionMatch

namespace Fallible

/-! ## The checks and the parser with every step that can fail -/

/-- What a step looks for, or the failure to find it. -/
def found {α : Type} : Option α → Except Error α
  | some value => .ok value
  | none => .error .emptyText

/-- Takes a trailing modifier off a text, which must have a last character. A character that is
written like a modifier must stand for one. -/
def splitModifier (text : Text) : Except Error SimpleElement := do
  let symbol ← found text.getLast?
  if symbol = '+' ∨ symbol = '*' then
    let modifier ← Modifier.ofText [symbol]
    return ⟨text.dropLast, some modifier⟩
  else
    return ⟨text, none⟩

/-- What is wrong with the version-id of a simple-element whose text is `simple`. Its last character
is looked at if the first one is no separator. -/
def versionIdProblem (simple versionId : Text) : Except Error (Option Problem) :=
  if versionId.isEmpty then return some (.modifierAlone simple)
  else match VersionId.forbidden? versionId with
    | some c => return some (.forbiddenCharacter c simple)
    | none => do
      if VersionId.isSeparator (← found versionId.head?) then
        return some (.leadingSeparator simple)
      else if VersionId.isSeparator (← found versionId.getLast?) then
        return some (.trailingSeparator simple)
      else if VersionId.hasAdjacentSeparators versionId then
        return some (.adjacentSeparators simple)
      else return none

/-- What is wrong with the text of a simple-element. -/
def simpleElementProblem (text : Text) : Except Error (Option Problem) :=
  if text.isEmpty then return some .emptySimpleElement
  else do
    let simple ← splitModifier text
    versionIdProblem text simple.versionId

/-- What is wrong with a text that is checked piece by piece up to the first problem. The empty text
has a problem of its own. -/
def problemOfPieces (emptyProblem : Problem) (pieces : Text → List Text)
    (check : Text → Except Error (Option Problem)) (text : Text) : Except Error (Option Problem) :=
  if text.isEmpty then return some emptyProblem
  else (pieces text).findSomeM? check

/-- What is wrong with the text of an element. -/
def elementProblem (text : Text) : Except Error (Option Problem) :=
  problemOfPieces .emptyElement Element.pieces simpleElementProblem text

/-- What is wrong with the text of a version-string. -/
def versionStringProblem (text : Text) : Except Error (Option Problem) :=
  problemOfPieces .emptyVersionString VersionString.pieces elementProblem text

/-- Whether a check finds nothing wrong with a text, which may be absent. -/
def isValidBy (check : Text → Except Error (Option Problem)) (text : Option Text) :
    Except Error Bool := do
  let problem ← check (Text.orEmpty text)
  return problem.isNone

/-- Reads each piece of a text as a simple-element. -/
def element (text : Text) : Except Error Element := do
  let simples ← (Element.pieces text).mapM splitModifier
  return ⟨simples⟩

/-- Parses a version-string. The text is checked first and then cut a second time. -/
def parse (text : Option Text) : Except Error VersionString :=
  if (Text.orEmpty text).isEmpty then throw (.invalidVersionString text .emptyVersionString)
  else do
    match ← versionStringProblem (Text.orEmpty text) with
    | some problem => throw (.invalidVersionString text problem)
    | none =>
      let elements ← (VersionString.pieces (Text.orEmpty text)).mapM element
      return ⟨elements⟩

/-! ## Steps that find what they look for -/

theorem found_some {α : Type} (value : α) : found (some value) = pure value := rfl

theorem found_eq_error_iff {α : Type} {value : Option α} {error : Error} :
    found value = .error error ↔ value = none ∧ error = .emptyText := by
  cases value with
  | none => simp [found, eq_comm]
  | some value => simp [found]

/-- A text that is not empty has a first and a last character. -/
theorem found_of_ne_nil {text : Text} (hne : text ≠ []) :
    found text.head? = pure (text.head hne) ∧ found text.getLast? = pure (text.getLast hne) := by
  rw [List.head?_eq_some_head hne, List.getLast?_eq_some_getLast hne]
  exact ⟨found_some _, found_some _⟩

/-- Reading the items of a list finds all values if each item has one. -/
theorem map_m_eq_found {α : Type} {step : Text → Except Error α} {read : Text → Option α}
    (hstep : ∀ text, step text = found (read text)) (texts : List Text) :
    texts.mapM step = found (texts.mapM read) := by
  induction texts with
  | nil => rfl
  | cons text texts ih =>
      rw [List.mapM_cons, List.mapM_cons, hstep, ih]
      cases read text with
      | none => rfl
      | some value => cases texts.mapM read <;> rfl

/-- Taking off a modifier finds what there is to read: a character that is written like a modifier
stands for one. -/
theorem split_modifier_eq (text : Text) :
    splitModifier text = found (SimpleElement.ofText? text) := by
  unfold splitModifier SimpleElement.ofText?
  cases text.getLast? with
  | none => rfl
  | some symbol =>
      rw [found_some, pure_bind, Option.map_some]
      cases hsymbol : Modifier.ofSymbol? symbol with
      | some modifier =>
          obtain rfl := Modifier.of_symbol_eq_some_iff.1 hsymbol
          cases modifier <;> rfl
      | none =>
          have hother : ¬ (symbol = '+' ∨ symbol = '*') := by
            rintro (rfl | rfl) <;> cases hsymbol
          rw [if_neg hother]
          rfl

/-- Nothing can be read from the empty text only. -/
theorem of_text_eq_none_iff {text : Text} : SimpleElement.ofText? text = none ↔ text = [] := by
  rw [SimpleElement.ofText?, Option.map_eq_none_iff, List.getLast?_eq_none_iff]

/-- Taking off a modifier fails on the empty text only, and for want of a character. -/
theorem split_modifier_eq_error_iff {text : Text} {error : Error} :
    splitModifier text = .error error ↔ text = [] ∧ error = .emptyText := by
  rw [split_modifier_eq, found_eq_error_iff, of_text_eq_none_iff]

/-! ## The checks answer for every text -/

/-- The characters of a version-id are looked at behind the check that it has some. -/
theorem version_id_problem_eq (simple versionId : Text) :
    versionIdProblem simple versionId = pure (VersionId.problem? simple versionId) := by
  unfold versionIdProblem VersionId.problem?
  by_cases hnil : versionId = []
  · subst hnil
    rfl
  · obtain ⟨hfirst, hlast⟩ := found_of_ne_nil hnil
    rw [List.isEmpty_eq_false_iff.2 hnil, hfirst, hlast, VersionId.hasLeadingSeparator,
      VersionId.hasTrailingSeparator, List.head?_eq_some_head hnil,
      List.getLast?_eq_some_getLast hnil]
    cases VersionId.forbidden? versionId with
    | some c => rfl
    | none => simp only [Bool.false_eq_true, if_false, pure_bind, Option.any_some, apply_ite pure]

/-- A modifier is taken off behind the check that the text is not empty. -/
theorem simple_element_problem_eq (text : Text) :
    simpleElementProblem text = pure (SimpleElement.problem? text) := by
  unfold simpleElementProblem SimpleElement.problem?
  cases hread : SimpleElement.ofText? text with
  | none =>
      obtain rfl := of_text_eq_none_iff.1 hread
      rfl
  | some simple =>
      have hne := (SimpleElement.of_text_eq_some_iff.1 hread).1
      rw [List.isEmpty_eq_false_iff.2 hne, split_modifier_eq, hread, found_some, pure_bind]
      exact version_id_problem_eq text simple.versionId

/-- A check that answers for every piece answers for the text. -/
theorem problem_of_pieces_eq {check : Text → Except Error (Option Problem)}
    {problem? : Text → Option Problem} (hcheck : ∀ text, check text = pure (problem? text))
    (emptyProblem : Problem) (pieces : Text → List Text) (text : Text) :
    problemOfPieces emptyProblem pieces check text =
      pure (if text.isEmpty then some emptyProblem else (pieces text).findSome? problem?) := by
  rw [problemOfPieces, funext hcheck, List.findSomeM?_pure, apply_ite pure]

theorem element_problem_eq (text : Text) :
    elementProblem text = pure (Element.problem? text) :=
  problem_of_pieces_eq simple_element_problem_eq .emptyElement Element.pieces text

theorem version_string_problem_eq (text : Text) :
    versionStringProblem text = pure (VersionString.problem? text) :=
  problem_of_pieces_eq element_problem_eq .emptyVersionString VersionString.pieces text

/-- A check that answers for every text decides whether it is valid. -/
theorem is_valid_by_eq {check : Text → Except Error (Option Problem)}
    {problem? : Text → Option Problem} (hcheck : ∀ text, check text = pure (problem? text))
    (text : Option Text) :
    isValidBy check text = pure (problem? (Text.orEmpty text)).isNone := by
  rw [isValidBy, hcheck, pure_bind]

/-! ## Parsing fails with problems only -/

theorem element_eq (text : Text) : element text = found (Element.ofText? text) := by
  rw [element, map_m_eq_found split_modifier_eq, Element.ofText?]
  cases (Element.pieces text).mapM SimpleElement.ofText? <;> rfl

/-- The parser with all steps that can fail has the outcome of the one without them. -/
theorem parse_eq (text : Option Text) : parse text = VersionString.parse text := by
  unfold parse VersionString.parse
  rw [version_string_problem_eq, pure_bind]
  by_cases hnil : Text.orEmpty text = []
  · rw [hnil]
    rfl
  · rw [List.isEmpty_eq_false_iff.2 hnil, if_neg Bool.false_ne_true]
    cases VersionString.problem? (Text.orEmpty text) with
    | some problem => rfl
    | none =>
        dsimp only
        rw [map_m_eq_found element_eq, VersionString.ofText?]
        cases (VersionString.pieces (Text.orEmpty text)).mapM Element.ofText? <;> rfl

end Fallible

namespace VersionString

/-- A text without a problem can be read. The pieces that are cut a second time are those that were
checked, so none of them is empty. -/
theorem parse_of_no_problem {text : Option Text} (h : problem? (Text.orEmpty text) = none) :
    ∃ versionString, parse text = .ok versionString := by
  obtain ⟨versionString, hwellFormed, hrender⟩ :=
    is_version_string_iff_render.1 ((problem_eq_none_iff _).1 h)
  refine ⟨versionString, ?_⟩
  unfold parse
  rw [h, ← hrender, of_text_render hwellFormed]

/-- The failures of parsing are the problems of the text. -/
theorem parse_eq_error_iff {text : Option Text} {error : Error} :
    parse text = .error error ↔
      ∃ problem, problem? (Text.orEmpty text) = some problem ∧
        error = .invalidVersionString text problem := by
  cases hproblem : problem? (Text.orEmpty text) with
  | some problem => simp [parse, hproblem, eq_comm]
  | none =>
      obtain ⟨versionString, hparse⟩ := parse_of_no_problem hproblem
      simp [hparse]

/-- With every step spelled out that could look for a character in vain or make a modifier of
another character, the checks still answer for every text, present or not, and parsing fails exactly
on the texts with a problem, which are the invalid ones. The failure keeps the text as it was given
and names its problem. A modifier can be taken off any text but the empty one. -/
theorem parse_fails_iff_problem (text : Option Text) :
    Fallible.versionStringProblem (Text.orEmpty text) = .ok (Query.problem? text) ∧
    Fallible.isValidBy Fallible.simpleElementProblem text =
      .ok (Query.isValidSimpleElement text) ∧
    Fallible.isValidBy Fallible.elementProblem text = .ok (Query.isValidElement text) ∧
    Fallible.isValidBy Fallible.versionStringProblem text = .ok (Query.isValid text) ∧
    Fallible.parse text = parse text ∧
    ((∃ error, parse text = .error error) ↔ Query.problem? text ≠ none) ∧
    (Query.problem? text ≠ none ↔ Query.isValid text = false) ∧
    (∀ error, parse text = .error error ↔
      ∃ problem, Query.problem? text = some problem ∧
        error = .invalidVersionString text problem) ∧
    ∀ simple error, Fallible.splitModifier simple = .error error ↔
      simple = [] ∧ error = .emptyText := by
  refine ⟨Fallible.version_string_problem_eq _,
    Fallible.is_valid_by_eq Fallible.simple_element_problem_eq text,
    Fallible.is_valid_by_eq Fallible.element_problem_eq text,
    Fallible.is_valid_by_eq Fallible.version_string_problem_eq text,
    Fallible.parse_eq text, ?_, ?_, fun _ => parse_eq_error_iff,
    fun _ _ => Fallible.split_modifier_eq_error_iff⟩
  · simp only [parse_eq_error_iff, Query.problem?, Option.ne_none_iff_exists']
    constructor
    · rintro ⟨_, problem, hproblem, -⟩
      exact ⟨problem, hproblem⟩
    · rintro ⟨problem, hproblem⟩
      exact ⟨_, problem, hproblem, rfl⟩
  · rw [Query.isValid, Option.isNone_eq_false_iff, Option.isSome_iff_ne_none]

/-- An absent text fails as the empty one does, but the two failures are told apart. -/
example :
    parse none = .error (.invalidVersionString none .emptyVersionString) ∧
    parse (some []) = .error (.invalidVersionString (some []) .emptyVersionString) :=
  ⟨rfl, rfl⟩

end VersionString

end VersionMatch
