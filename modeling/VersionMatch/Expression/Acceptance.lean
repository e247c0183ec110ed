import VersionMatch.Selection

/-!
# Acceptance by version-strings

The acceptance of releases by values of the types. A simple-element decides through its own text,
so a version-id that ends in a modifier character acts as a modified one. An element asks all of
its simple-elements and a version-string looks for the first element that accepts. Selection goes
through the text of the version-string.
-/

namespace VersionMatch

/-- The components of the version-id. -/
def SimpleElement.components (simple : SimpleElement) : List Text :=
  VersionId.components simple.versionId

/-- Whether a release meets the simple-element. -/
def SimpleElement.accepts (simple : SimpleElement) (release : Text) : Bool :=
  Requirement.meets release simple.render

/-- Whether a release meets every simple-element. -/
def Element.accepts (element : Element) (release : Text) : Bool :=
  element.simpleElements.all fun simple => simple.accepts release

namespace VersionString

/-- The first element that accepts a release. -/
def matchingElement (versionString : VersionString) (release : Text) : Option Element :=
  versionString.elements.find? fun element => element.accepts release

/-- Whether some element accepts a release. -/
def accepts (versionString : VersionString) (release : Text) : Bool :=
  (versionString.matchingElement release).isSome

/-- The newest of the releases that the version-string accepts. -/
def select? (versionString : VersionString) (releases : List Text) : Option Text :=
  Selection.select? releases versionString.render

end VersionString

end VersionMatch
