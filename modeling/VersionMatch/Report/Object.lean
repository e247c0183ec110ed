import VersionMatch.Json
import VersionMatch.Report.Basic

/-!
# Reports as JSON

A report as one JSON object. It lists every release with its outcome, and it is written for a report
on no release too.
-/

namespace VersionMatch.Report.Object

/-- The object of a release. -/
def ofOutcome (outcome : Outcome) : Json :=
  .object [
    ("release".toList, .string outcome.release),
    ("acceptable".toList, .bool outcome.isAcceptable),
    ("matched_element".toList, Json.ofOption outcome.matchedElement)]

/-- The object of a report. -/
def ofReport (report : Report) : Json :=
  .object [
    ("version_string".toList, .string report.versionString),
    ("releases".toList, .array (report.outcomes.map ofOutcome)),
    ("selected".toList, Json.ofOption report.selected)]

/-- The report as JSON. -/
def render (report : Report) : Text :=
  (ofReport report).render

end VersionMatch.Report.Object
