import VersionMatch.Report.Basic
import VersionMatch.Table

/-!
# Reports in columns

A table with a header, a rule under it and a line for each release, followed by the selected
release. A report on no release has no table.
-/

namespace VersionMatch.Report.Columns

/-- The header of the table. -/
def header : List Text :=
  ["Release".toList, "Acceptable".toList, "Matched Element".toList]

/-- The row of a release. The last cell is empty for a release that was turned down. -/
def row (outcome : Outcome) : List Text :=
  [outcome.release, outcome.verdict, Text.orEmpty outcome.matchedElement]

/-- The rows of the table. -/
def rows (outcomes : List Outcome) : List (List Text) :=
  header :: outcomes.map row

/-- The table with its rule. -/
def table (outcomes : List Outcome) : Text :=
  if outcomes.isEmpty then []
  else
    let widths := Table.widths (rows outcomes)
    Text.join ['\n']
      (Table.line widths header :: Table.rule widths ::
        outcomes.map fun outcome => Table.line widths (row outcome))

/-- The report in columns. -/
def render (report : Report) : Text :=
  withSelected (table report.outcomes)
    (report.selected.map fun release => "Selected: ".toList ++ release)

end VersionMatch.Report.Columns
