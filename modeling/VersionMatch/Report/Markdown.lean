import VersionMatch.Report.Basic

/-!
# Reports in Markdown

A Markdown table after an empty line, with a row for each release, followed by the selected
release. A report on no release has no table.
-/

namespace VersionMatch.Report.Markdown

/-- The cells of a row. -/
def cells (release verdict element : Text) : Text :=
  Text.join " | ".toList [release, verdict, element]

/-- The mark on both sides of a code span. -/
def quote : Text := "`".toList

/-- A text in backquotes; the empty and the absent text stay empty. -/
def code (text : Option Text) : Text :=
  if (Text.orEmpty text).isEmpty then [] else quote ++ Text.orEmpty text ++ quote

/-- The row of a release. -/
def row (outcome : Outcome) : Text :=
  cells outcome.release outcome.verdict (code outcome.matchedElement)

/-- The header of the table. -/
def header : Text :=
  cells "Release".toList "Acceptable".toList "Matched Element".toList

/-- The line between the header and the rows. -/
def border : Text :=
  cells "---".toList "---".toList "---".toList

/-- The table, after an empty line. -/
def table (outcomes : List Outcome) : Text :=
  if outcomes.isEmpty then []
  else Text.join ['\n'] ([] :: header :: border :: outcomes.map row)

/-- The report in Markdown. -/
def render (report : Report) : Text :=
  withSelected (table report.outcomes)
    (report.selected.map fun release => "Selected: ".toList ++ quote ++ release ++ quote)

end VersionMatch.Report.Markdown
