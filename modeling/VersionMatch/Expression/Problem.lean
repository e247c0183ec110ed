import VersionMatch.Expression.Basic
import VersionMatch.Text.Quoted
import VersionMatch.VersionId

/-!
# Problems of version-string texts

A well-formed version-string has no empty element, no empty simple-element and no modifier on its
own, and each of its version-ids is made of non-empty components: it neither begins nor ends with a
separator, has no two separators in a row, and holds none of the characters that build expressions.
`problem?` finds what is wrong with a text, piece by piece from the left.
-/

namespace VersionMatch

/-- What can be wrong with a text. The texts kept are those of the simple-element at fault. -/
inductive Problem where
  | emptyVersionString
  | emptyElement
  | emptySimpleElement
  | modifierAlone (simple : Text)
  | forbiddenCharacter (c : Char) (simple : Text)
  | leadingSeparator (simple : Text)
  | trailingSeparator (simple : Text)
  | adjacentSeparators (simple : Text)
  deriving DecidableEq

/-- The wording of a problem. -/
def Problem.message : Problem → Text
  | .emptyVersionString => "empty version string".toList
  | .emptyElement => "empty element".toList
  | .emptySimpleElement => "empty simple-element".toList
  | .modifierAlone simple => "modifier without a version-id in ".toList ++ Text.quoted simple
  | .forbiddenCharacter c simple =>
    "forbidden character ".toList ++ Text.quoted [c] ++ " in ".toList ++ Text.quoted simple
  | .leadingSeparator simple => "leading separator in ".toList ++ Text.quoted simple
  | .trailingSeparator simple => "trailing separator in ".toList ++ Text.quoted simple
  | .adjacentSeparators simple => "adjacent separators in ".toList ++ Text.quoted simple

namespace VersionId

/-- The characters that build expressions and have no place in a version-id, in the order of their
code points. -/
def forbidden : List Char := [' ', '&', '*', '+']

/-- The forbidden character of a version-id that has the smallest code point. -/
def forbidden? (versionId : Text) : Option Char :=
  forbidden.find? fun c => versionId.contains c

/-- Whether a version-id begins with a separator. -/
def hasLeadingSeparator (versionId : Text) : Bool :=
  versionId.head?.any isSeparator

/-- Whether a version-id ends with a separator. -/
def hasTrailingSeparator (versionId : Text) : Bool :=
  versionId.getLast?.any isSeparator

/-- Whether a version-id has two separators in a row. -/
def hasAdjacentSeparators (versionId : Text) : Bool :=
  (versionId.zip versionId.tail).any fun pair => isSeparator pair.1 && isSeparator pair.2

end VersionId

/-- What is wrong with the version-id of a simple-element whose text is `simple`. -/
def VersionId.problem? (simple versionId : Text) : Option Problem :=
  if versionId.isEmpty then some (.modifierAlone simple)
  else match forbidden? versionId with
    | some c => some (.forbiddenCharacter c simple)
    | none =>
      if hasLeadingSeparator versionId then some (.leadingSeparator simple)
      else if hasTrailingSeparator versionId then some (.trailingSeparator simple)
      else if hasAdjacentSeparators versionId then some (.adjacentSeparators simple)
      else none

/-- What is wrong with the text of a simple-element. -/
def SimpleElement.problem? (text : Text) : Option Problem :=
  match SimpleElement.ofText? text with
  | none => some .emptySimpleElement
  | some simple => VersionId.problem? text simple.versionId

/-- What is wrong with the text of an element: the problem of its first simple-element at fault. -/
def Element.problem? (text : Text) : Option Problem :=
  if text.isEmpty then some .emptyElement
  else (pieces text).findSome? SimpleElement.problem?

/-- What is wrong with the text of a version-string: the problem of its first element at fault. -/
def VersionString.problem? (text : Text) : Option Problem :=
  if text.isEmpty then some .emptyVersionString
  else (pieces text).findSome? Element.problem?

end VersionMatch
