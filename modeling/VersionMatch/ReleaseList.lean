import VersionMatch.Text.Blank

/-!
# Release lists

A release list names one release on each line. A `#` at the start of a line or after a blank begins
a comment that runs to the end of the line; within a release it is part of the release. Blanks
around a release and lines without a release do not count.
-/

namespace VersionMatch.ReleaseList

/-- What stands before the comment of a line. `mayBegin` tells whether a comment may begin at the
first character: it may at the start of the line and after a blank. -/
def beforeComment (mayBegin : Bool) : Text → Text
  | [] => []
  | c :: rest =>
    if mayBegin && c == '#' then [] else c :: beforeComment (Text.isBlank c) rest

/-- The release of a line, if it has one. -/
def release? (line : Text) : Option Text :=
  let release := Text.trim (beforeComment true line)
  if release.isEmpty then none else some release

/-- The releases of the lines, in order. -/
def ofLines (lines : List Text) : List Text :=
  lines.filterMap release?

end VersionMatch.ReleaseList
