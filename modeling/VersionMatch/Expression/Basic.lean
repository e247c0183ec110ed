import VersionMatch.Modifier
import VersionMatch.Text.Span

/-!
# Version-strings and their texts

A version-string is a union of elements, an element an intersection of simple-elements, and a
simple-element a version-id with an optional modifier. The types hold any version-ids and any
number of parts, also those that no well-formed text has. `render` writes each of them. The text of
a version-string is cut into elements at spaces, the text of an element into simple-elements at
ampersands.
-/

namespace VersionMatch

/-- A version-id with an optional modifier, such as `1.6+`. -/
structure SimpleElement where
  versionId : Text
  modifier : Option Modifier
  deriving DecidableEq

/-- An intersection of simple-elements, such as `1.6+&1.7*`. -/
structure Element where
  simpleElements : List SimpleElement
  deriving DecidableEq

/-- A union of elements, such as `1.5+ 1.6* 1.7*`. -/
structure VersionString where
  elements : List Element
  deriving DecidableEq

namespace SimpleElement

/-- The version-id, followed by the modifier if there is one. -/
def render (simple : SimpleElement) : Text :=
  match simple.modifier with
  | some modifier => simple.versionId ++ [modifier.symbol]
  | none => simple.versionId

/-- Takes a trailing modifier off a text. Nothing can be taken off the empty text. -/
def ofText? (text : Text) : Option SimpleElement :=
  text.getLast?.map fun last =>
    match Modifier.ofSymbol? last with
    | some modifier => ⟨text.dropLast, some modifier⟩
    | none => ⟨text, none⟩

end SimpleElement

namespace Element

/-- The simple-elements, with an ampersand between neighbours. -/
def render (element : Element) : Text :=
  Text.join ['&'] (element.simpleElements.map SimpleElement.render)

/-- The texts of the simple-elements in the text of an element. -/
def pieces (text : Text) : List Text :=
  Text.spans (· == '&') text

/-- Reads each piece of a text as a simple-element. -/
def ofText? (text : Text) : Option Element :=
  ((pieces text).mapM SimpleElement.ofText?).map Element.mk

end Element

namespace VersionString

/-- The elements, with a space between neighbours. -/
def render (versionString : VersionString) : Text :=
  Text.join [' '] (versionString.elements.map Element.render)

/-- The texts of the elements in the text of a version-string. -/
def pieces (text : Text) : List Text :=
  Text.spans (· == ' ') text

/-- Reads each piece of a text as an element. -/
def ofText? (text : Text) : Option VersionString :=
  ((pieces text).mapM Element.ofText?).map VersionString.mk

end VersionString

end VersionMatch
