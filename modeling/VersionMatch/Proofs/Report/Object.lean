import VersionMatch.Proofs.Json.Rendering
import VersionMatch.Report.Object

/-!
# A report can be read back from its JSON text

The JSON text of a report is printable ASCII and has one reading by the grammar of JSON. The reading
shows the version-string, each release with its outcome, and the selected release, all of them texts
of any characters. So different reports have different texts. `text_reads_back` states this.
-/

namespace VersionMatch.Report.Object

open Json (Value)

/-- The reading of an optional text. -/
def optionValue (text : Option Text) : Value :=
  text.elim .null .string

theorem option_value_injective : Function.Injective optionValue := by
  intro first second h
  cases first <;> cases second <;> cases h <;> rfl

theorem to_value_of_option (text : Option Text) :
    (Json.ofOption text).toValue = optionValue text := by
  cases text <;> rfl

/-- The reading of the object of a release. -/
def outcomeValue (outcome : Outcome) : Value :=
  .object [
    ("release".toList, .string outcome.release),
    ("acceptable".toList, .bool outcome.matchedElement.isSome),
    ("matched_element".toList, optionValue outcome.matchedElement)]

theorem outcome_value_injective : Function.Injective outcomeValue := by
  intro ⟨release, element⟩ ⟨otherRelease, otherElement⟩ h
  simp only [outcomeValue, Value.object.injEq, List.cons.injEq, Prod.mk.injEq, true_and, and_true,
    Value.string.injEq] at h
  obtain ⟨rfl, -, helement⟩ := h
  rw [option_value_injective helement]

theorem to_value_of_outcome (outcome : Outcome) :
    (ofOutcome outcome).toValue = outcomeValue outcome := by
  simp only [ofOutcome, Json.toValue, Json.toMembers, to_value_of_option]
  rfl

/-- The reading of the object of a report. -/
theorem to_value_of_report (report : Report) :
    (ofReport report).toValue = .object [
      ("version_string".toList, .string report.versionString),
      ("releases".toList, .array (report.outcomes.map outcomeValue)),
      ("selected".toList, optionValue report.selected)] := by
  simp only [ofReport, Json.toValue, Json.toMembers, to_value_of_option, Json.to_values_eq,
    List.map_map, Function.comp_def, to_value_of_outcome]

/-- Reports with the same reading are the same. -/
theorem to_value_injective : Function.Injective fun report => (ofReport report).toValue := by
  intro ⟨versionString, outcomes, selected⟩ ⟨otherString, otherOutcomes, otherSelected⟩ h
  simp only [to_value_of_report, Value.object.injEq, List.cons.injEq, Prod.mk.injEq, true_and,
    and_true, Value.string.injEq, Value.array.injEq] at h
  obtain ⟨rfl, houtcomes, hselected⟩ := h
  rw [outcome_value_injective.list_map houtcomes, option_value_injective hselected]

/-- The JSON text of a report is printable ASCII, and it is one JSON value: the version-string, the
releases in order, each with whether it is acceptable and the element that accepted it, if any, and
the selected release, if any. No other report has this text. -/
theorem text_reads_back (report : Report) :
    (∀ c ∈ render report, ' ' ≤ c ∧ c ≤ '~') ∧
    (∀ value, Json.Denotes (render report) value ↔
      value = .object [
        ("version_string".toList, .string report.versionString),
        ("releases".toList, .array (report.outcomes.map fun outcome => .object [
          ("release".toList, .string outcome.release),
          ("acceptable".toList, .bool outcome.matchedElement.isSome),
          ("matched_element".toList, outcome.matchedElement.elim .null .string)])),
        ("selected".toList, report.selected.elim .null .string)]) ∧
    ∀ other, render other = render report → other = report := by
  refine ⟨Json.is_ascii_render (ofReport report), ?_, ?_⟩
  · intro value
    rw [render, Json.denotes_render_iff, to_value_of_report]
    rfl
  · intro other htext
    -- The text of the other report denotes its own value and that of the first report.
    have hother : Json.Denotes (render report) (ofReport other).toValue := by
      rw [← htext]
      exact Json.denotes_render_iff.2 rfl
    exact to_value_injective (Json.denotes_render_iff.1 hother)

/-- A quote, a line feed and a character above U+FFFF are written by escapes. -/
example : render ⟨['"', '\n', '𝄞'], [], none⟩ =
    ("\x7b\"version_string\": \"\\\"\\n\\ud834\\udd1e\", " ++
      "\"releases\": [], \"selected\": null\x7d").toList := by
  decide

end VersionMatch.Report.Object
