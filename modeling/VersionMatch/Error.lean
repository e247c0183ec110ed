import VersionMatch.Expression.Problem

/-!
# Errors

The ways in which a request of the library can fail, and how each of them is worded.
-/

namespace VersionMatch

/-- Why a request failed. -/
inductive Error where
  /-- The text, which may be absent, is no version-string. -/
  | invalidVersionString (text : Option Text) (problem : Problem)
  /-- A modifier cannot be taken off the empty text. -/
  | emptyText
  /-- No modifier is written like this. -/
  | unknownModifier (text : Text)
  /-- No report format has this name. -/
  | unknownFormat (text : Text)
  deriving DecidableEq

/-- The wording of an error. -/
def Error.message : Error → Text
  | .invalidVersionString text problem =>
    "invalid version string ".toList ++ Text.quotedOption text ++ ": ".toList ++ problem.message
  | .emptyText => "string index out of range".toList
  | .unknownModifier text => Text.quoted text ++ " is not a valid Modifier".toList
  | .unknownFormat text => Text.quoted text ++ " is not a valid OutputFormatChoice".toList

end VersionMatch
