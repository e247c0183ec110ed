import VersionMatch.Error

/-!
# Parsing

Parsing turns a text without a problem into a value of the types. The checks of the grammar come
first; after them every piece of the text can be read.
-/

namespace VersionMatch

/-- Takes a trailing modifier off a text. -/
def SimpleElement.ofText (text : Text) : Except Error SimpleElement :=
  match SimpleElement.ofText? text with
  | some simple => .ok simple
  | none => .error .emptyText

/-- The modifier that a text stands for. -/
def Modifier.ofText (text : Text) : Except Error Modifier :=
  match Modifier.ofText? text with
  | some modifier => .ok modifier
  | none => .error (.unknownModifier text)

/-- Parses a version-string. An absent text has the problem of the empty one, but the error keeps
the two apart. -/
def VersionString.parse (text : Option Text) : Except Error VersionString :=
  match VersionString.problem? (Text.orEmpty text) with
  | some problem => .error (.invalidVersionString text problem)
  | none =>
    match VersionString.ofText? (Text.orEmpty text) with
    | some versionString => .ok versionString
    | none => .error .emptyText

end VersionMatch
