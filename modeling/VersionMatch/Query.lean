import VersionMatch.Expression.Acceptance
import VersionMatch.Expression.Parse

/-!
# Queries on texts that may be absent

The questions that a caller can ask when a text may be missing. In all of them an absent text acts
as the empty one, so an absent release is never acceptable and an absent version-string accepts
nothing and is invalid.
-/

namespace VersionMatch.Query

open Text (orEmpty)

/-- The components of a version-id. -/
def components (versionId : Option Text) : List Text :=
  VersionId.components (orEmpty versionId)

/-- The prefix comparison of two version-ids. -/
def prefixDifference (a b : Option Text) : Int :=
  VersionId.prefixDifference (orEmpty a) (orEmpty b)

/-- The exact comparison of two version-ids. -/
def exactDifference (a b : Option Text) : Int :=
  VersionId.exactDifference (orEmpty a) (orEmpty b)

/-- Whether a release meets a simple-element. -/
def meets (release simple : Option Text) : Bool :=
  Requirement.meets (orEmpty release) (orEmpty simple)

/-- Whether a release meets every simple-element of an element. -/
def meetsAll (release element : Option Text) : Bool :=
  Requirement.meetsAll (orEmpty release) (orEmpty element)

/-- The first element of a version-string that accepts a release. -/
def matchingElement (release versionString : Option Text) : Option Text :=
  Requirement.matchingElement (orEmpty release) (orEmpty versionString)

/-- Whether a release meets a version-string. -/
def isAcceptable (release versionString : Option Text) : Bool :=
  (matchingElement release versionString).isSome

/-- The releases that meet a version-string. An absent release meets none. -/
def acceptable (releases : List (Option Text)) (versionString : Option Text) : List Text :=
  Selection.acceptable (releases.map orEmpty) (orEmpty versionString)

/-- The newest release that meets a version-string. -/
def select? (releases : List (Option Text)) (versionString : Option Text) : Option Text :=
  Selection.select? (releases.map orEmpty) (orEmpty versionString)

/-- What is wrong with a simple-element. -/
def simpleElementProblem? (simple : Option Text) : Option Problem :=
  SimpleElement.problem? (orEmpty simple)

/-- What is wrong with an element. -/
def elementProblem? (element : Option Text) : Option Problem :=
  Element.problem? (orEmpty element)

/-- What is wrong with a version-string. -/
def problem? (versionString : Option Text) : Option Problem :=
  VersionString.problem? (orEmpty versionString)

/-- Whether a simple-element is well-formed. -/
def isValidSimpleElement (simple : Option Text) : Bool :=
  (simpleElementProblem? simple).isNone

/-- Whether an element is well-formed. -/
def isValidElement (element : Option Text) : Bool :=
  (elementProblem? element).isNone

/-- Whether a version-string is well-formed. -/
def isValid (versionString : Option Text) : Bool :=
  (problem? versionString).isNone

end VersionMatch.Query
