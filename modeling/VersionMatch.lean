import VersionMatch.Main
import VersionMatch.Proofs.Expression.Acceptance
import VersionMatch.Proofs.Expression.Diagnosis
import VersionMatch.Proofs.Expression.Parse
import VersionMatch.Proofs.Expression.Relaxation
import VersionMatch.Proofs.Json.Rendering
import VersionMatch.Proofs.Key
import VersionMatch.Proofs.Rank
import VersionMatch.Proofs.Report.Object
import VersionMatch.Proofs.Requirement
import VersionMatch.Proofs.Requirement.Composition
import VersionMatch.Proofs.Selection
import VersionMatch.Proofs.Selection.Rearrangement
import VersionMatch.Proofs.Session.Agreement
import VersionMatch.Proofs.Session.Presentation
import VersionMatch.Proofs.VersionId.Surplus
import VersionMatch.Proofs.Expression.Failure
import VersionMatch.Proofs.VersionId.Numbers
import VersionMatch.Proofs.Requirement.Malformed
import VersionMatch.Proofs.VersionId.Spelling
import VersionMatch.Proofs.Expression.Respelling
import VersionMatch.Proofs.ReleaseList
import VersionMatch.Proofs.Table
import VersionMatch.Proofs.Text.Word
import VersionMatch.Proofs.Report.Columns
import VersionMatch.Proofs.Report.Markdown
import VersionMatch.Proofs.Text.Decomposition
import VersionMatch.Proofs.VersionId.Bounds
import VersionMatch.Proofs.Session.Log
import VersionMatch.Proofs.Expression.FirstProblem
