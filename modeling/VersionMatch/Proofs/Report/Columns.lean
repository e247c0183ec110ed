import VersionMatch.Proofs.Report
import VersionMatch.Proofs.Table

/-!
# A report can be read back from its columns

If no release and no element has a blank, then the words of a line are the cells of its row, without
the empty ones. So the lines of the table tell the outcomes apart (`shown_injective`), and the empty
line behind them, which is no line of a table, tells where the selected release stands. From this,
`columns_read_back` concludes that the text determines everything that it shows.
-/

namespace VersionMatch

open Text

/-- The release and the element of an outcome have no blanks, and the release is not empty. -/
structure Outcome.InWords (outcome : Outcome) : Prop where
  release_ne_nil : outcome.release ≠ []
  release_free : BlankFree outcome.release
  element_free : ∀ element ∈ outcome.matchedElement, BlankFree element

/-- The outcomes of a report are in words, and the selected release has no blanks. -/
structure Report.InWords (report : Report) : Prop where
  outcomes : ∀ outcome ∈ report.outcomes, outcome.InWords
  selected_free : ∀ release ∈ report.selected, BlankFree release

namespace Report.Columns

/-- The line of the selected release. -/
def selectedLine (release : Text) : Text :=
  "Selected: ".toList ++ release

/-- What the line of a release shows: the release, whether it is acceptable, and the element that
accepted it, if this is not empty. -/
def shown (outcome : Outcome) : List Text :=
  outcome.release :: (if outcome.matchedElement.isSome then "yes".toList else "no".toList) ::
    (outcome.matchedElement.filter fun element => !element.isEmpty).toList

/-- What is shown of an outcome tells it apart from all others. -/
theorem shown_injective : Function.Injective shown := by
  intro ⟨release, element⟩ ⟨otherRelease, otherElement⟩ h
  simp only [shown, List.cons.injEq] at h
  obtain ⟨rfl, hverdict, hshown⟩ := h
  rw [Outcome.mk.injEq]
  refine ⟨rfl, ?_⟩
  cases element with
  | none =>
      cases otherElement with
      | none => rfl
      | some otherElement => cases hverdict
  | some element =>
      cases otherElement with
      | none => cases hverdict
      | some otherElement =>
          -- Both were accepted, and an element that is not shown is the empty one.
          cases element with
          | nil =>
              cases otherElement with
              | nil => rfl
              | cons c rest => cases hshown
          | cons c rest =>
              cases otherElement with
              | nil => cases hshown
              | cons d otherRest =>
                  cases hshown
                  rfl

variable {report : Report} {outcome : Outcome}

/-! ## Widths -/

theorem length_row_of_mem {cells : List Text} {outcomes : List Outcome}
    (h : cells ∈ rows outcomes) : cells.length = 3 := by
  rcases List.mem_cons.1 h with rfl | h
  · rfl
  · obtain ⟨outcome, -, rfl⟩ := List.mem_map.1 h
    rfl

/-- The table has three columns, none of them narrower than its header. -/
theorem widths_eq (outcomes : List Outcome) :
    ∃ first second third, Table.widths (rows outcomes) = [first, second, third] ∧
      "Release".toList.length ≤ first ∧ "Acceptable".toList.length ≤ second ∧
      "Matched Element".toList.length ≤ third := by
  have hlength : (Table.widths (rows outcomes)).length = 3 := by
    have hmax : ((rows outcomes).map List.length).max? = some 3 := by
      refine List.max?_eq_some_iff.2 ⟨List.mem_cons_self, ?_⟩
      intro length hlength
      obtain ⟨cells, hcells, rfl⟩ := List.mem_map.1 hlength
      exact Nat.le_of_eq (length_row_of_mem hcells)
    rw [Table.length_widths, hmax]
    rfl
  obtain ⟨first, second, third, hwidths⟩ := List.length_eq_three.1 hlength
  have hfits : Table.Fits header [first, second, third] := by
    rw [← hwidths]
    exact Table.fits_widths List.mem_cons_self
  exact ⟨first, second, third, hwidths, hfits.length_le 0 rfl rfl, hfits.length_le 1 rfl rfl,
    hfits.length_le 2 rfl rfl⟩

/-! ## Lines -/

/-- The header in columns of given widths. -/
theorem line_header (first second third : Nat) :
    Table.line [first, second, third] header =
      Table.pad "Release".toList first ++ ' ' :: Table.pad "Acceptable".toList second ++
        " Matched Element".toList := by
  rw [Table.line, trim_end_eq_iff]
  refine ⟨?_, List.replicate (third - "Matched Element".toList.length) ' ', all_blank_spaces _, ?_⟩
  · intro c hc
    rw [List.getLast?_append] at hc
    cases hc
    rfl
  · simp [header, join, List.intercalate, Table.pad, List.rightpad]

/-- A row shows its cells that are not empty. -/
theorem filter_row (hne : outcome.release ≠ []) :
    (row outcome).filter (fun cell => !cell.isEmpty) = shown outcome := by
  obtain ⟨release, element⟩ := outcome
  rw [row, List.filter_cons_of_pos (by simpa using hne)]
  cases element with
  | none => rfl
  | some element =>
      cases element with
      | nil => rfl
      | cons c rest => rfl

/-- No cell of an outcome in words has a blank. -/
theorem row_free (h : outcome.InWords) : ∀ cell ∈ row outcome, BlankFree cell := by
  intro cell hcell
  simp only [row, List.mem_cons, List.not_mem_nil, or_false] at hcell
  rcases hcell with rfl | rfl | rfl
  · exact h.release_free
  · rw [Outcome.verdict]
    split <;> decide
  · cases helement : outcome.matchedElement with
    | none => exact nofun
    | some element => exact h.element_free element helement

/-- The words of the line of an outcome are what it shows. -/
theorem words_line_row (h : outcome.InWords) (first second third : Nat) :
    words (Table.line [first, second, third] (row outcome)) = shown outcome := by
  have hlength : (row outcome).length ≤ [first, second, third].length := Nat.le_refl 3
  rw [Table.words_line (row_free h) hlength, filter_row h.release_ne_nil]

/-- The lines of the outcomes in a table. -/
def outcomeLines (outcomes : List Outcome) : List Text :=
  outcomes.map fun outcome => Table.line (Table.widths (rows outcomes)) (row outcome)

/-- The words of the lines are what the outcomes show. -/
theorem map_words_outcome_lines {outcomes : List Outcome}
    (h : ∀ outcome ∈ outcomes, outcome.InWords) :
    (outcomeLines outcomes).map words = outcomes.map shown := by
  obtain ⟨first, second, third, hwidths, -⟩ := widths_eq outcomes
  rw [outcomeLines, hwidths, List.map_map]
  exact List.map_congr_left fun outcome houtcome => words_line_row (h outcome houtcome) _ _ _

theorem ne_nil_of_mem_outcome_lines {outcomes : List Outcome}
    (h : ∀ outcome ∈ outcomes, outcome.InWords) : ∀ line ∈ outcomeLines outcomes, line ≠ [] := by
  intro line hline hnil
  have hwords : words line ∈ outcomes.map shown := by
    rw [← map_words_outcome_lines h]
    exact List.mem_map_of_mem hline
  obtain ⟨outcome, -, hshown⟩ := List.mem_map.1 hwords
  rw [hnil] at hshown
  cases hshown

/-- No line of the table is broken by a line end. -/
theorem newline_not_mem_line {cells : List Text} {outcomes : List Outcome}
    (h : ∀ outcome ∈ outcomes, outcome.InWords) (hcells : cells ∈ rows outcomes)
    (widths : List Nat) : '\n' ∉ Table.line widths cells := by
  intro hnewline
  obtain ⟨cell, hcell, hmem⟩ := (Table.mem_of_mem_line hnewline).resolve_left (by decide)
  rcases List.mem_cons.1 hcells with rfl | hcells
  · exact absurd hmem ((by decide : ∀ cell ∈ header, '\n' ∉ cell) cell hcell)
  · obtain ⟨outcome, houtcome, rfl⟩ := List.mem_map.1 hcells
    exact (row_free (h outcome houtcome) cell hcell).not_mem rfl hmem

theorem newline_not_mem_rule (widths : List Nat) : '\n' ∉ Table.rule widths := by
  intro hnewline
  obtain ⟨dashes, hdashes, hmem⟩ := (mem_of_mem_join hnewline).resolve_left (by decide)
  obtain ⟨width, -, rfl⟩ := List.mem_map.1 hdashes
  exact absurd (List.eq_of_mem_replicate hmem) (by decide)

/-- The lines of the table are the header, the rule and one for each outcome. -/
theorem spans_table {outcomes : List Outcome} (h : ∀ outcome ∈ outcomes, outcome.InWords)
    (hne : outcomes ≠ []) :
    spans (· == '\n') (table outcomes) =
      Table.line (Table.widths (rows outcomes)) header ::
        Table.rule (Table.widths (rows outcomes)) :: outcomeLines outcomes := by
  rw [table, if_neg (by simpa using hne)]
  refine spans_join ?_ (by simp)
  simp only [List.forall_mem_cons, List.forall_mem_map]
  refine ⟨newline_not_mem_line h List.mem_cons_self _, newline_not_mem_rule _, ?_⟩
  intro outcome houtcome
  exact newline_not_mem_line h (List.mem_cons_of_mem _ (List.mem_map_of_mem houtcome)) _

/-! ## The whole text -/

theorem render_of_nil (h : report.outcomes = []) :
    render report = report.selected.elim [] selectedLine := by
  rw [render, h]
  cases report.selected <;> rfl

theorem table_ne_nil {outcomes : List Outcome} (hne : outcomes ≠ []) : table outcomes ≠ [] := by
  rw [table, if_neg (by simpa using hne)]
  simp [join, List.intercalate_cons_cons]

/-- The text is empty exactly if there is nothing to report. -/
theorem render_eq_nil_iff (report : Report) :
    render report = [] ↔ report.outcomes = [] ∧ report.selected = none := by
  by_cases hnil : report.outcomes = []
  · rw [render_of_nil hnil, and_iff_right hnil]
    cases report.selected with
    | none => exact ⟨fun _ => rfl, fun _ => rfl⟩
    | some release => exact ⟨nofun, nofun⟩
  · rw [render, with_selected_of_ne_nil (table_ne_nil hnil), List.append_eq_nil_iff]
    exact ⟨fun h => absurd h.1 (table_ne_nil hnil), fun h => absurd h.1 hnil⟩

/-- The line of the selected release tells which one it is, and whether there is one. -/
theorem selected_line_inj {selected otherSelected : Option Text}
    (h : selected.elim [] selectedLine = otherSelected.elim [] selectedLine) :
    selected = otherSelected := by
  cases selected with
  | none =>
      cases otherSelected with
      | none => rfl
      | some release => cases h
  | some release =>
      cases otherSelected with
      | none => cases h
      | some otherRelease => rw [List.append_cancel_left h]

/-- The lines behind the table: an empty one and the one of the selected release, if there is
one. -/
def trailer (selected : Option Text) : List Text :=
  selected.elim [] fun release => [[], selectedLine release]

theorem spans_selected_line {release : Text} (h : BlankFree release) :
    spans (· == '\n') (selectedLine release) = [selectedLine release] := by
  refine spans_of_free (forall_not_delimiter_iff.2 ?_)
  intro hnewline
  exact h.not_mem rfl ((List.mem_append.1 hnewline).resolve_left (by decide))

theorem spans_render_of_nil (h : report.InWords) (hnil : report.outcomes = []) :
    spans (· == '\n') (render report) = [report.selected.elim [] selectedLine] := by
  have hfree := h.selected_free
  rw [render_of_nil hnil]
  cases hselected : report.selected with
  | none => rfl
  | some release => exact spans_selected_line (hfree release hselected)

/-- The lines of a report with outcomes are those of the table and what follows it. -/
theorem spans_render_of_ne_nil (h : report.InWords) (hne : report.outcomes ≠ []) :
    spans (· == '\n') (render report) =
      Table.line (Table.widths (rows report.outcomes)) header ::
        Table.rule (Table.widths (rows report.outcomes)) ::
        outcomeLines report.outcomes ++ trailer report.selected := by
  have hfree := h.selected_free
  rw [render, spans_with_selected (table_ne_nil hne), spans_table h.outcomes hne]
  cases hselected : report.selected with
  | none => rfl
  | some release =>
      rw [trailer, Option.elim_some, ← spans_selected_line (hfree release hselected)]
      rfl

/-- Lines that are not empty can be told from what follows the table. -/
theorem append_trailer_inj {lines otherLines : List Text} {selected otherSelected : Option Text}
    (hne : ∀ line ∈ lines, line ≠ []) (hother : ∀ line ∈ otherLines, line ≠ [])
    (h : lines ++ trailer selected = otherLines ++ trailer otherSelected) :
    lines = otherLines ∧ selected = otherSelected := by
  have hlines : ∀ {lines : List Text} (selected : Option Text), (∀ line ∈ lines, line ≠ []) →
      (lines ++ trailer selected).takeWhile (fun line => !line.isEmpty) = lines := by
    intro lines selected hne
    rw [List.takeWhile_append_of_pos (by simpa using hne)]
    cases selected <;> exact List.append_nil lines
  have heq : lines = otherLines := by
    rw [← hlines selected hne, h, hlines otherSelected hother]
  refine ⟨heq, ?_⟩
  subst heq
  have htrailer := List.append_cancel_left h
  cases selected <;> cases otherSelected <;> cases htrailer <;> rfl

/-- Reports with the same text have the same outcomes and the same selected release. -/
theorem outcomes_eq_of_render_eq {other : Report} (h : report.InWords) (hother : other.InWords)
    (htext : render other = render report) :
    other.outcomes = report.outcomes ∧ other.selected = report.selected := by
  have hspans := congrArg (spans (· == '\n')) htext
  by_cases hnil : report.outcomes = []
  · by_cases hotherNil : other.outcomes = []
    · rw [render_of_nil hnil, render_of_nil hotherNil] at htext
      exact ⟨hotherNil.trans hnil.symm, selected_line_inj htext⟩
    · -- A table has more than one line.
      rw [spans_render_of_nil h hnil, spans_render_of_ne_nil hother hotherNil] at hspans
      exact absurd (congrArg List.length hspans) (by simp)
  · by_cases hotherNil : other.outcomes = []
    · rw [spans_render_of_ne_nil h hnil, spans_render_of_nil hother hotherNil] at hspans
      exact absurd (congrArg List.length hspans) (by simp)
    · rw [spans_render_of_ne_nil h hnil, spans_render_of_ne_nil hother hotherNil] at hspans
      obtain ⟨hlines, hselected⟩ := append_trailer_inj (ne_nil_of_mem_outcome_lines hother.outcomes)
        (ne_nil_of_mem_outcome_lines h.outcomes) (List.cons.inj (List.cons.inj hspans).2).2
      have hshown : other.outcomes.map shown = report.outcomes.map shown := by
        rw [← map_words_outcome_lines hother.outcomes, hlines, map_words_outcome_lines h.outcomes]
      exact ⟨shown_injective.list_map hshown, hselected⟩

/-- The text of a report in words is empty exactly if there is nothing to report. The text of a
report with outcomes has a header, a rule as wide as the columns, a line for each outcome in order,
whose words are the release, whether it is acceptable and the element that accepted it, and, if
a release was selected, an empty line and one for this release. No other outcomes and no other
selected release have this text. -/
theorem columns_read_back (report other : Report) (h : report.InWords) (hother : other.InWords) :
    (render report = [] ↔ report.outcomes = [] ∧ report.selected = none) ∧
    (report.outcomes ≠ [] → ∃ first second third lines,
      Table.widths (rows report.outcomes) = [first, second, third] ∧
      "Release".toList.length ≤ first ∧ "Acceptable".toList.length ≤ second ∧
      "Matched Element".toList.length ≤ third ∧
      spans (· == '\n') (render report) =
        (Table.pad "Release".toList first ++ ' ' :: Table.pad "Acceptable".toList second ++
          " Matched Element".toList) ::
        (List.replicate first '-' ++ ' ' :: List.replicate second '-' ++
          ' ' :: List.replicate third '-') ::
        lines ++
        report.selected.elim [] (fun release => [[], "Selected: ".toList ++ release]) ∧
      List.Forall₂ (fun outcome line => words line =
        outcome.release :: (if outcome.matchedElement.isSome then "yes".toList else "no".toList) ::
          (outcome.matchedElement.filter fun element => !element.isEmpty).toList)
        report.outcomes lines) ∧
    (render other = render report →
      other.outcomes = report.outcomes ∧ other.selected = report.selected) := by
  refine ⟨render_eq_nil_iff report, ?_, outcomes_eq_of_render_eq h hother⟩
  intro hne
  obtain ⟨first, second, third, hwidths, hfirst, hsecond, hthird⟩ := widths_eq report.outcomes
  have hrule : Table.rule [first, second, third] =
      List.replicate first '-' ++ ' ' :: List.replicate second '-' ++
        ' ' :: List.replicate third '-' := by
    simp [Table.rule, join, List.intercalate_cons_cons]
  refine ⟨first, second, third, outcomeLines report.outcomes, hwidths, hfirst, hsecond, hthird, ?_,
    ?_⟩
  · rw [spans_render_of_ne_nil h hne, ← line_header first second third, ← hrule, ← hwidths]
    rfl
  · rw [outcomeLines, hwidths, List.forall₂_map_right_iff, List.forall₂_same]
    intro outcome houtcome
    exact words_line_row (h.outcomes outcome houtcome) first second third

/-- A release that the empty element accepted has a line of two words, like one that was turned
down, but the texts of the reports differ. -/
theorem columns_read_back_empty_element :
    InWords ⟨[], [⟨['7'], some []⟩], some ['7']⟩ ∧ InWords ⟨[], [⟨['7'], none⟩], some ['7']⟩ ∧
    (∃ line, spans (· == '\n') (render ⟨[], [⟨['7'], some []⟩], some ['7']⟩) =
        ["Release Acceptable Matched Element".toList, "------- ---------- ---------------".toList,
          line, [], "Selected: 7".toList] ∧
      words line = [['7'], "yes".toList]) ∧
    render ⟨[], [⟨['7'], none⟩], some ['7']⟩ ≠ render ⟨[], [⟨['7'], some []⟩], some ['7']⟩ := by
  have hseven : BlankFree ['7'] := by decide
  have hword : ∀ element ∈ (none : Option Text), BlankFree element := nofun
  have hempty : ∀ element ∈ some [], BlankFree element := by
    intro element helement
    cases helement
    exact nofun
  have hselected : ∀ release ∈ some ['7'], BlankFree release := by
    intro release hrelease
    cases hrelease
    exact hseven
  have h : InWords ⟨[], [⟨['7'], some []⟩], some ['7']⟩ :=
    ⟨List.forall_mem_singleton.2 ⟨List.cons_ne_nil _ _, hseven, hempty⟩, hselected⟩
  have hother : InWords ⟨[], [⟨['7'], none⟩], some ['7']⟩ :=
    ⟨List.forall_mem_singleton.2 ⟨List.cons_ne_nil _ _, hseven, hword⟩, hselected⟩
  obtain ⟨-, hlines, hsame⟩ := columns_read_back ⟨[], [⟨['7'], some []⟩], some ['7']⟩
    ⟨[], [⟨['7'], none⟩], some ['7']⟩ h hother
  refine ⟨h, hother, ?_, ?_⟩
  · obtain ⟨first, second, third, lines, hwidths, -, -, -, hspans, hshown⟩ :=
      hlines (List.cons_ne_nil _ _)
    have hvalues : [7, 10, 15] = [first, second, third] := hwidths
    cases hvalues
    cases hshown with
    | cons hwords hrest =>
        cases hrest
        exact ⟨_, hspans, hwords⟩
  · intro htext
    cases (hsame htext).1

end Report.Columns

end VersionMatch
