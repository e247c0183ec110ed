import VersionMatch.Selection

/-!
# Reports

A report holds the outcome of checking releases: which element, if any, accepted each of them, and
which release was selected, if any.
-/

namespace VersionMatch

/-- The outcome for one release: the first element that it meets, if any. -/
structure Outcome where
  release : Text
  matchedElement : Option Text
  deriving DecidableEq

namespace Outcome

/-- Whether the release met the version-string. -/
def isAcceptable (outcome : Outcome) : Bool :=
  outcome.matchedElement.isSome

/-- The outcome for a release under a version-string. -/
def ofRelease (versionString release : Text) : Outcome :=
  ⟨release, Requirement.matchingElement release versionString⟩

/-- The word for whether the release met the version-string. -/
def verdict (outcome : Outcome) : Text :=
  if outcome.isAcceptable then "yes".toList else "no".toList

end Outcome

/-- The outcomes for all releases that were checked against a version-string, in order, and the
release that was selected. -/
structure Report where
  versionString : Text
  outcomes : List Outcome
  selected : Option Text
  deriving DecidableEq

namespace Report

/-- The report on releases under a version-string. A release is selected only on request. -/
def ofReleases (versionString : Text) (releases : List Text) (select : Bool) : Report where
  versionString := versionString
  outcomes := releases.map (Outcome.ofRelease versionString)
  selected := if select then Selection.select? releases versionString else none

/-- The number of releases that met the version-string. -/
def acceptableCount (report : Report) : Nat :=
  report.outcomes.countP Outcome.isAcceptable

/-- The line that sums up a report. -/
def summary (report : Report) : Text :=
  "Found ".toList ++ Text.ofNat report.acceptableCount ++
    (if report.acceptableCount = 1 then " acceptable release out of ".toList
      else " acceptable releases out of ".toList) ++
    Text.ofNat report.outcomes.length ++
    match report.selected with
    | some release => "; selected ".toList ++ release
    | none => []

/-- A text followed, after an empty line, by the line for the selected release if there is one. -/
def withSelected (body : Text) (selected : Option Text) : Text :=
  match selected with
  | none => body
  | some line => (if body.isEmpty then body else body ++ ['\n', '\n']) ++ line

end Report

end VersionMatch
