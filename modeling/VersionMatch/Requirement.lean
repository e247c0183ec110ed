import VersionMatch.Expression.Basic
import VersionMatch.VersionId

/-!
# Releases that meet a requirement

A release meets a version-string if it meets one of its elements, and an element if it meets each
of its simple-elements. All of this works on texts and answers for malformed ones too. `search`
looks through the elements from left to right and stops at the first one that accepts the release.
It keeps, for each element that it passes over, the simple-element that turned the release down.
-/

namespace VersionMatch.Requirement

/-- Whether a release is a milestone build: its text holds a hyphen. -/
def isMilestone (release : Text) : Bool :=
  release.contains '-'

/-- Whether a release meets a simple-element. Without a modifier the two must be equal as
version-ids. A milestone build meets a modified simple-element only if it is spelled like its
version-id. The empty release, the empty simple-element and the bare modifier go with nothing. -/
def meets (release simple : Text) : Bool :=
  !release.isEmpty &&
    match SimpleElement.ofText? simple with
    | none => false
    | some ⟨versionId, none⟩ => VersionId.exactDifference release versionId == 0
    | some ⟨versionId, some modifier⟩ =>
      !versionId.isEmpty &&
        if isMilestone release then release == versionId
        else match modifier with
          | .prefixMatch => VersionId.prefixDifference release versionId == 0
          | .atLeast => 0 ≤ VersionId.exactDifference release versionId

/-- The first simple-element of an element that a release does not meet. -/
def rejecting? (release element : Text) : Option Text :=
  (Element.pieces element).find? fun simple => !meets release simple

/-- Whether a release meets every simple-element of an element. -/
def meetsAll (release element : Text) : Bool :=
  (rejecting? release element).isNone

/-- What a search through elements finds: the first element that accepts the release, and for each
element before it the simple-element that rejected the release. -/
structure Finding where
  rejections : List Text
  element : Option Text

/-- Looks for the first element that accepts a release. -/
def search (release : Text) : List Text → Finding
  | [] => ⟨[], none⟩
  | element :: others =>
    match rejecting? release element with
    | none => ⟨[], some element⟩
    | some simple =>
      let finding := search release others
      ⟨simple :: finding.rejections, finding.element⟩

/-- What the search through a version-string finds for a release. -/
def find (release versionString : Text) : Finding :=
  search release (VersionString.pieces versionString)

/-- The first element of a version-string that accepts a release. -/
def matchingElement (release versionString : Text) : Option Text :=
  (find release versionString).element

/-- Whether a release meets a version-string. -/
def isAcceptable (release versionString : Text) : Bool :=
  (matchingElement release versionString).isSome

end VersionMatch.Requirement
