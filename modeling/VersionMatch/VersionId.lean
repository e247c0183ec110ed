import VersionMatch.Component
import VersionMatch.Text.Span

/-!
# Version-ids

A version-id such as `1.8.0_202` is a sequence of components between separators. Two comparisons
of version-ids differ in what they do once one side has no components left. The prefix comparison
stops there, so `1.2` agrees with `1.2.3`. The exact comparison goes on with `0` for each missing
component, so `1.2` equals `1.2.0` but not `1.2.1`.
-/

namespace VersionMatch.VersionId

/-- Whether a character separates components. -/
def isSeparator (c : Char) : Bool :=
  c == '.' || c == '-' || c == '_'

/-- The components of a version-id, from left to right. -/
def components (versionId : Text) : List Text :=
  Text.spans isSeparator versionId

/-- The component that stands for a missing one in the exact comparison. -/
def missing : Text := ['0']

/-- The first number of a list that is not zero, or zero if there is none. -/
def firstNonzero (differences : List Int) : Int :=
  (differences.find? (· != 0)).getD 0

/-- The differences of the components that both sides have. -/
def commonDifferences (a b : List Text) : List Int :=
  List.zipWith Component.difference a b

/-- The differences of all components, the shorter side filled up. -/
def filledDifferences (a b : List Text) : List Int :=
  List.zipWithAll
    (fun left right => Component.difference (left.getD missing) (right.getD missing)) a b

/-- The prefix comparison: the first difference among the components that both sides have. -/
def prefixDifference (a b : Text) : Int :=
  firstNonzero (commonDifferences (components a) (components b))

/-- The exact comparison: the first difference among all components, the shorter side filled up. -/
def exactDifference (a b : Text) : Int :=
  firstNonzero (filledDifferences (components a) (components b))

end VersionMatch.VersionId
