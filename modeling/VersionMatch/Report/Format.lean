import VersionMatch.Error
import VersionMatch.Report.Columns
import VersionMatch.Report.Markdown
import VersionMatch.Report.Object

/-!
# Report formats

The formats that a report can be written in, and their names.
-/

namespace VersionMatch.Report

/-- A format of reports. -/
inductive Format where
  | columns
  | json
  | markdown
  deriving DecidableEq

namespace Format

/-- The name of a format. -/
def name : Format → Text
  | .columns => "columns".toList
  | .json => "json".toList
  | .markdown => "markdown".toList

/-- The format of a name. -/
def ofName? (text : Text) : Option Format :=
  [columns, json, markdown].find? fun format => format.name == text

/-- The format of a name, or the error that there is none. -/
def ofName (text : Text) : Except Error Format :=
  match ofName? text with
  | some format => .ok format
  | none => .error (.unknownFormat text)

/-- Whether a report on no release is written too. -/
def isManifest : Format → Bool
  | .json => true
  | .columns | .markdown => false

end Format

/-- The text of a report in a format. -/
def render (format : Format) (report : Report) : Text :=
  match format with
  | .columns => Columns.render report
  | .json => Object.render report
  | .markdown => Markdown.render report

end VersionMatch.Report
