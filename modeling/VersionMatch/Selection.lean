import VersionMatch.Requirement

/-!
# Selection of a release

The newest of several releases is the first one that no other release is newer than under the exact
comparison. Only releases that meet the version-string are candidates.
-/

namespace VersionMatch.Selection

/-- The releases that meet a version-string, in order. -/
def acceptable (releases : List Text) (versionString : Text) : List Text :=
  releases.filter fun release => Requirement.isAcceptable release versionString

/-- The better of the best release so far and a further one, which has to be strictly newer. -/
def newer (best : Option Text) (release : Text) : Option Text :=
  match best with
  | none => some release
  | some held => if 0 < VersionId.exactDifference release held then some release else some held

/-- The newest of the releases, and of equally new ones the first. -/
def newest? (releases : List Text) : Option Text :=
  releases.foldl newer none

/-- The newest release that meets a version-string. -/
def select? (releases : List Text) (versionString : Text) : Option Text :=
  newest? (acceptable releases versionString)

end VersionMatch.Selection
