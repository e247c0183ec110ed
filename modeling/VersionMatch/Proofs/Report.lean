import VersionMatch.Proofs.Selection
import VersionMatch.Proofs.Text.Span
import VersionMatch.Report.Format

/-!
# Reports and the library

A report looks at each release on its own and counts the outcomes, whereas the selection filters the
releases once more. Both go by the same test, so the count is the number of acceptable releases, and
a release is selected exactly if that number is not zero.

The formats with a table share how the selected release follows it.
-/

namespace VersionMatch

/-- Nothing is selected exactly if no release is acceptable. -/
theorem Selection.select_eq_none_iff {releases : List Text} {versionString : Text} :
    select? releases versionString = none ↔ acceptable releases versionString = [] :=
  newest_eq_none_iff

namespace Report

variable {versionString : Text} {releases : List Text} {select : Bool}

/-- The count of a report is the number of acceptable releases. -/
theorem acceptable_count_of_releases :
    (ofReleases versionString releases select).acceptableCount =
      (Selection.acceptable releases versionString).length := by
  rw [acceptableCount, ofReleases, List.countP_map, List.countP_eq_length_filter]
  rfl

theorem length_outcomes_of_releases :
    (ofReleases versionString releases select).outcomes.length = releases.length :=
  List.length_map _

/-- The summary counts the acceptable releases out of all and names the selected one, if any. -/
theorem summary_of_releases :
    (ofReleases versionString releases select).summary =
      "Found ".toList ++ Text.ofNat (Selection.acceptable releases versionString).length ++
        (if (Selection.acceptable releases versionString).length = 1
          then " acceptable release out of ".toList else " acceptable releases out of ".toList) ++
        Text.ofNat releases.length ++
        (if select then Selection.select? releases versionString else none).elim []
          (fun release => "; selected ".toList ++ release) := by
  unfold summary
  rw [acceptable_count_of_releases, length_outcomes_of_releases]
  congr 1
  unfold ofReleases
  cases (if select then Selection.select? releases versionString else none) with
  | none => rfl
  | some release => rfl

/-- The object of a report lists each release with the element that accepts it, if there is one. -/
theorem object_of_releases :
    Object.ofReport (ofReleases versionString releases select) =
      .object [
        ("version_string".toList, .string versionString),
        ("releases".toList, .array (releases.map fun release => .object [
          ("release".toList, .string release),
          ("acceptable".toList,
            .bool (Requirement.matchingElement release versionString).isSome),
          ("matched_element".toList,
            Json.ofOption (Requirement.matchingElement release versionString))])),
        ("selected".toList, Json.ofOption
          (if select then Selection.select? releases versionString else none))] := by
  rw [Object.ofReport, ofReleases, List.map_map]
  rfl

/-! ## The selected release behind a table -/

theorem with_selected_of_ne_nil {body : Text} (hne : body ≠ []) (line : Option Text) :
    withSelected body line = body ++ line.elim [] fun line => '\n' :: '\n' :: line := by
  cases line with
  | none => exact (List.append_nil body).symm
  | some line =>
      rw [withSelected, if_neg (by simpa using hne), List.append_assoc]
      rfl

/-- An empty line stands between the lines of the table and those of the selected release. -/
theorem spans_with_selected {body : Text} (hne : body ≠ []) (line : Option Text) :
    Text.spans (· == '\n') (withSelected body line) =
      Text.spans (· == '\n') body ++
        line.elim [] fun line => [] :: Text.spans (· == '\n') line := by
  rw [with_selected_of_ne_nil hne]
  cases line with
  | none => rw [Option.elim_none, List.append_nil, Option.elim_none, List.append_nil]
  | some line =>
      rw [Option.elim_some, Text.spans_append_cons _ _ rfl, Text.spans_cons_delimiter _ rfl]
      rfl

end Report

end VersionMatch
