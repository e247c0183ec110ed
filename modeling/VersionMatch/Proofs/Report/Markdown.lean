import Mathlib.Data.List.Forall2
import VersionMatch.Proofs.Report
import VersionMatch.Proofs.Requirement.Malformed
import VersionMatch.Proofs.Text.Blank
import VersionMatch.Proofs.Text.Mark

/-!
# Reports that are tables in Markdown

The row of a table ends with its line, and its cells end at its bars, except those that a backslash
escapes. A report escapes nothing, so a bar or a line end in a release or in an element is read as
the end of a cell or of a row. `is_table_iff` says for which releases the text of a report is
nevertheless the table that it is meant to be.
-/

namespace VersionMatch.Report.Markdown

open Text

/-! ## What a table shows -/

/-- Whether a bar behind the character ends a cell. -/
def endsCell (c : Char) : Bool :=
  c != '\\'

/-- The cells of a line, without the blanks around them. -/
def cellsOf (line : Text) : List Text :=
  (partsAt '|' endsCell true line).map trim

/-- An element in backquotes, if there is one. -/
def quoted (element : Option Text) : Text :=
  element.elim [] fun element => '`' :: element ++ ['`']

/-- What the row of a release is meant to show: the release, whether it is acceptable, and the
element that accepts it in backquotes. -/
def shown (versionString release : Text) : List Text :=
  [release, if Requirement.isAcceptable release versionString then "yes".toList else "no".toList,
    quoted (Requirement.matchingElement release versionString)]

/-- The text of a report is a table: an empty line, a header, a border and one line for each
release in order, which shows it in three cells. The selected release follows behind an empty
line. -/
def IsTable (versionString : Text) (releases : List Text) (selected : Option Text) : Prop :=
  ∃ header border lines,
    spans (· == '\n')
        (render ⟨versionString, releases.map (Outcome.ofRelease versionString), selected⟩) =
      [] :: header :: border :: lines ++
        selected.elim [] (fun release =>
          [] :: spans (· == '\n') ("Selected: `".toList ++ release ++ ['`'])) ∧
    cellsOf header = ["Release".toList, "Acceptable".toList, "Matched Element".toList] ∧
    cellsOf border = ["---".toList, "---".toList, "---".toList] ∧
    List.Forall₂ (fun release line => cellsOf line = shown versionString release) releases lines

/-- The text has no line end, and each bar in it is behind a backslash. -/
structure Tabular (text : Text) : Prop where
  one_line : '\n' ∉ text
  escaped : ∀ before after, text = before ++ '|' :: after → before.getLast? = some '\\'

/-! ## Cells -/

/-- No bar in the text ends a cell. -/
def BarFree (text : Text) : Prop :=
  FreeOf '|' endsCell true text

variable {text : Text}

theorem bar_free_iff :
    BarFree text ↔
      ∀ before after, text = before ++ '|' :: after → before.getLast? = some '\\' := by
  have hlast : ∀ before : Text,
      countsBehind endsCell true before = false ↔ before.getLast? = some '\\' := by
    intro before
    rcases List.eq_nil_or_concat' before with rfl | ⟨before, c, rfl⟩
    · exact iff_of_false nofun nofun
    · rw [counts_behind_concat, List.getLast?_concat, Option.some_inj]
      exact bne_eq_false_iff_eq
  exact forall_congr' fun before => forall_congr' fun after => imp_congr_right fun _ => hlast before

theorem tabular_iff : Tabular text ↔ '\n' ∉ text ∧ BarFree text := by
  rw [bar_free_iff]
  exact ⟨fun h => ⟨h.one_line, h.escaped⟩, fun h => ⟨h.1, h.2⟩⟩

/-- A text between spaces is read as the only cell exactly if no bar ends it early and it has
no blanks around it. -/
theorem map_trim_parts_eq_iff {left right : Text} (hleft : left = [] ∨ left = [' '])
    (hright : right = [] ∨ right = [' ']) :
    (partsAt '|' endsCell true (left ++ text ++ right)).map trim = [text] ↔
      Trimmed text ∧ BarFree text := by
  have hspaces : ∀ {side : Text}, side = [] ∨ side = [' '] →
      AllBlank side ∧ '|' ∉ side ∧ countsBehind endsCell true side = true := by
    intro side hside
    rcases hside with rfl | rfl
    · exact ⟨nofun, List.not_mem_nil, rfl⟩
    · exact ⟨all_blank_spaces 1, by decide, rfl⟩
  obtain ⟨hbefore, hbar, hcounts⟩ := hspaces hleft
  obtain ⟨hafter, hbar', -⟩ := hspaces hright
  have haround : BarFree (left ++ text ++ right) ↔ BarFree text := by
    unfold BarFree
    rw [free_of_around hbar hbar', hcounts]
  constructor
  · intro hcell
    have hfree : BarFree (left ++ text ++ right) := by
      rw [BarFree, ← length_parts_at_eq_one_iff, ← List.length_map trim, hcell]
      rfl
    rw [parts_at_of_free hfree, List.map_singleton, List.singleton_inj] at hcell
    exact ⟨(trim_eq_iff.1 hcell).1, haround.1 hfree⟩
  · intro ⟨htrimmed, hfree⟩
    rw [parts_at_of_free (haround.2 hfree), List.map_singleton, trim_append hbefore hafter,
      trim_of_trimmed htrimmed]

/-- Three lists that are not empty have three elements together only if they have one each. -/
theorem append_eq_three_iff {α : Type} {first second third : List α} {x y z : α}
    (hfirst : first ≠ []) (hsecond : second ≠ []) (hthird : third ≠ []) :
    first ++ (second ++ third) = [x, y, z] ↔ first = [x] ∧ second = [y] ∧ third = [z] := by
  constructor
  · intro h
    have hlength := congrArg List.length h
    rw [List.length_append, List.length_append] at hlength
    have hpositive := List.length_pos_of_ne_nil hfirst
    have hpositive' := List.length_pos_of_ne_nil hsecond
    have hpositive'' := List.length_pos_of_ne_nil hthird
    have hthree : first.length + (second.length + third.length) = 3 := hlength
    obtain ⟨a, rfl⟩ := List.length_eq_one_iff.1 (show first.length = 1 by omega)
    obtain ⟨b, rfl⟩ := List.length_eq_one_iff.1 (show second.length = 1 by omega)
    obtain ⟨c, rfl⟩ := List.length_eq_one_iff.1 (show third.length = 1 by omega)
    cases h
    exact ⟨rfl, rfl, rfl⟩
  · intro ⟨hx, hy, hz⟩
    rw [hx, hy, hz]
    rfl

/-- The cells of a row are read back exactly if no bar ends one of them early and none has blanks
around it. -/
theorem cells_of_cells_iff {release verdict element : Text} :
    cellsOf (cells release verdict element) = [release, verdict, element] ↔
      (Trimmed release ∧ BarFree release) ∧ (Trimmed verdict ∧ BarFree verdict) ∧
        Trimmed element ∧ BarFree element := by
  have hrow : cells release verdict element =
      ([] ++ release ++ [' ']) ++ '|' :: (([' '] ++ verdict ++ [' ']) ++
        '|' :: ([' '] ++ element ++ [])) := by
    simp [cells, join, List.intercalate_cons_cons]
  have hends : endsCell '|' = true := rfl
  have hne : ∀ text : Text, (partsAt '|' endsCell true text).map trim ≠ [] := by
    intro text
    rw [ne_eq, List.map_eq_nil_iff]
    exact parts_at_ne_nil _ _ _ text
  rw [cellsOf, hrow, parts_at_append_mark _ (counts_behind_concat _ _), hends,
    parts_at_append_mark _ (counts_behind_concat _ _), hends, List.map_append, List.map_append,
    append_eq_three_iff (hne _) (hne _) (hne _), map_trim_parts_eq_iff (.inl rfl) (.inr rfl),
    map_trim_parts_eq_iff (.inr rfl) (.inr rfl), map_trim_parts_eq_iff (.inr rfl) (.inl rfl)]

/-! ## Rows -/

/-- The element that accepts a release is not empty, so it stands in backquotes. -/
theorem code_matching_element (versionString release : Text) :
    code (Requirement.matchingElement release versionString) =
      quoted (Requirement.matchingElement release versionString) := by
  cases helement : Requirement.matchingElement release versionString with
  | none => rfl
  | some element =>
      have hne : element ≠ [] := (Requirement.well_formed_of_matching_element helement).2.1
      exact if_neg (by simpa [orEmpty] using hne)

theorem row_of_release (versionString release : Text) :
    row (Outcome.ofRelease versionString release) =
      cells release (Outcome.ofRelease versionString release).verdict
        (quoted (Requirement.matchingElement release versionString)) := by
  rw [← code_matching_element]
  rfl

/-- The backquotes are at the ends, where blanks would be lost. -/
theorem quoted_is_cell_iff (element : Option Text) :
    Trimmed (quoted element) ∧ BarFree (quoted element) ↔
      ∀ inner ∈ element, BarFree inner := by
  cases element with
  | none => exact iff_of_true ⟨⟨nofun, nofun⟩, free_of_not_mem List.not_mem_nil⟩ nofun
  | some element =>
      have hlast : (quoted (some element)).getLast? = some '`' := List.getLast?_concat
      have htrimmed : Trimmed (quoted (some element)) := by
        refine ⟨?_, ?_⟩
        · intro c hc
          cases hc
          rfl
        · intro c hc
          rw [hlast] at hc
          cases hc
          rfl
      have hfree : BarFree (quoted (some element)) ↔ BarFree element := by
        show FreeOf '|' endsCell true (['`'] ++ element ++ ['`']) ↔ BarFree element
        exact free_of_around (by decide) (by decide)
      rw [and_iff_right htrimmed]
      simpa using hfree

/-- A row shows its release as it is meant to exactly if the release has no blanks around it and
no bar ends a cell in the release or the element. -/
theorem cells_of_row_iff (versionString release : Text) :
    cellsOf (row (Outcome.ofRelease versionString release)) = shown versionString release ↔
      Trimmed release ∧ BarFree release ∧
        ∀ element ∈ Requirement.matchingElement release versionString, BarFree element := by
  have hverdict : Trimmed (Outcome.ofRelease versionString release).verdict ∧
      BarFree (Outcome.ofRelease versionString release).verdict := by
    rw [Outcome.verdict]
    split
    · exact ⟨BlankFree.trimmed (by decide), free_of_not_mem (by decide)⟩
    · exact ⟨BlankFree.trimmed (by decide), free_of_not_mem (by decide)⟩
  have hshown : shown versionString release =
      [release, (Outcome.ofRelease versionString release).verdict,
        quoted (Requirement.matchingElement release versionString)] := rfl
  rw [hshown, row_of_release, cells_of_cells_iff, and_iff_right hverdict, quoted_is_cell_iff,
    and_assoc]

/-- A row is broken only by line ends in the release and in the element. -/
theorem newline_not_mem_row_iff (versionString release : Text) :
    '\n' ∉ row (Outcome.ofRelease versionString release) ↔
      '\n' ∉ release ∧
        ∀ element ∈ Requirement.matchingElement release versionString, '\n' ∉ element := by
  have hverdict : '\n' ∉ (Outcome.ofRelease versionString release).verdict := by
    rw [Outcome.verdict]
    split <;> decide
  have hcells : ∀ element : Text,
      '\n' ∉ cells release (Outcome.ofRelease versionString release).verdict element ↔
        '\n' ∉ release ∧ '\n' ∉ element := by
    intro element
    simp [cells, join, List.intercalate_cons_cons, hverdict]
  rw [row_of_release, hcells]
  cases Requirement.matchingElement release versionString <;> simp [quoted]

/-! ## The whole text -/

variable {outcomes : List Outcome}

theorem table_ne_nil (hne : outcomes ≠ []) : table outcomes ≠ [] := by
  rw [table, if_neg (by simpa using hne)]
  simp [join, List.intercalate_cons_cons]

/-- The lines of a report with outcomes. -/
theorem spans_render (hne : outcomes ≠ []) (versionString : Text) (selected : Option Text) :
    spans (· == '\n') (render ⟨versionString, outcomes, selected⟩) =
      [] :: header :: border :: (outcomes.map row).flatMap (spans (· == '\n')) ++
        selected.elim [] (fun release =>
          [] :: spans (· == '\n') ("Selected: `".toList ++ release ++ ['`'])) := by
  have htable : spans (· == '\n') (table outcomes) =
      [] :: header :: border :: (outcomes.map row).flatMap (spans (· == '\n')) := by
    rw [table, if_neg (by simpa using hne), spans_join_eq_flat_map (List.cons_ne_nil _ _)]
    rfl
  rw [render, spans_with_selected (table_ne_nil hne), htable]
  cases selected <;> rfl

/-- The lines of the releases show them exactly if no row is broken into lines and each shows
its release. -/
theorem forall₂_lines_iff (versionString : Text) (releases : List Text) :
    List.Forall₂ (fun release line => cellsOf line = shown versionString release) releases
        (((releases.map (Outcome.ofRelease versionString)).map row).flatMap
          (spans (· == '\n'))) ↔
      ∀ release ∈ releases, '\n' ∉ row (Outcome.ofRelease versionString release) ∧
        cellsOf (row (Outcome.ofRelease versionString release)) =
          shown versionString release := by
  rw [List.map_map]
  generalize hrow : row ∘ Outcome.ofRelease versionString = rowOf
  have hbroken : (∀ text ∈ releases.map rowOf, ∀ c ∈ text, (c == '\n') = false) ↔
      ∀ release ∈ releases, '\n' ∉ rowOf release := by
    simp only [forall_not_delimiter_iff, List.forall_mem_map]
  subst hrow
  constructor
  · intro h
    -- A row that is broken would leave more lines than there are releases.
    have hfree := length_flat_map_spans_eq_iff.1
      (h.length_eq.symm.trans (List.length_map _).symm)
    rw [flat_map_spans_of_free hfree, List.forall₂_map_right_iff, List.forall₂_same] at h
    intro release hrelease
    exact ⟨hbroken.1 hfree release hrelease, h release hrelease⟩
  · intro h
    have hfree := hbroken.2 fun release hrelease => (h release hrelease).1
    rw [flat_map_spans_of_free hfree, List.forall₂_map_right_iff, List.forall₂_same]
    exact fun release hrelease => (h release hrelease).2

/-- A release has a line of its own that shows it exactly if it has no blanks around it and both
it and its element are tabular. -/
theorem line_of_release_iff (versionString release : Text) :
    ('\n' ∉ row (Outcome.ofRelease versionString release) ∧
        cellsOf (row (Outcome.ofRelease versionString release)) = shown versionString release) ↔
      Trimmed release ∧ Tabular release ∧
        ∀ element ∈ Requirement.matchingElement release versionString, Tabular element := by
  rw [newline_not_mem_row_iff, cells_of_row_iff]
  simp only [tabular_iff]
  constructor
  · intro ⟨⟨hline, hlines⟩, htrimmed, hfree, hbars⟩
    exact ⟨htrimmed, ⟨hline, hfree⟩, fun element helement =>
      ⟨hlines element helement, hbars element helement⟩⟩
  · intro ⟨htrimmed, ⟨hline, hfree⟩, helements⟩
    exact ⟨⟨hline, fun element helement => (helements element helement).1⟩, htrimmed, hfree,
      fun element helement => (helements element helement).2⟩

/-- A report on no release has no header and no border. -/
theorem not_is_table_nil (versionString : Text) (selected : Option Text) :
    ¬ IsTable versionString [] selected := by
  intro ⟨header, border, lines, hspans, _⟩
  have hlength := congrArg List.length hspans
  rw [List.length_append, List.length_cons, List.length_cons, List.length_cons] at hlength
  cases selected with
  | none =>
      have hone : (spans (· == '\n') (render ⟨versionString, [], none⟩)).length = 1 := rfl
      rw [List.map_nil, hone] at hlength
      omega
  | some release =>
      have hselected : spans (· == '\n') (render ⟨versionString, [], some release⟩) =
          spans (· == '\n') ("Selected: `".toList ++ release ++ ['`']) := rfl
      rw [List.map_nil, hselected, Option.elim_some, List.length_cons] at hlength
      omega

/-- The text of a report on releases is a table exactly if there is a release, no release has
blanks around it, and neither the releases nor the elements that accept them have a line end or
a bar that is not behind a backslash. -/
theorem is_table_iff (versionString : Text) (releases : List Text) (selected : Option Text) :
    IsTable versionString releases selected ↔
      releases ≠ [] ∧ ∀ release ∈ releases, Trimmed release ∧ Tabular release ∧
        ∀ element ∈ Requirement.matchingElement release versionString, Tabular element := by
  by_cases hnil : releases = []
  · rw [hnil]
    exact iff_of_false (not_is_table_nil versionString selected) fun h => h.1 rfl
  · have hne : releases.map (Outcome.ofRelease versionString) ≠ [] := by simpa using hnil
    simp only [← line_of_release_iff]
    rw [and_iff_right hnil, ← forall₂_lines_iff, IsTable, spans_render hne]
    constructor
    · intro ⟨header, border, lines, hspans, _, _, hrows⟩
      simp only [List.cons_append, List.cons.injEq, true_and] at hspans
      rw [List.append_cancel_right hspans.2.2]
      exact hrows
    · intro hrows
      exact ⟨header, border, _, rfl, by decide, by decide, hrows⟩

/-- The release `1|2` is the element that accepts it, and the line of these two has five cells. The
element of the release `1` in the other version-string goes on behind a line end, and so does the
row. -/
theorem not_is_table_bar_line_end :
    Query.isValid (some "1|2".toList) = true ∧ '\n' ∉ "1|2".toList ∧
    Requirement.matchingElement "1|2".toList "1|2".toList = some "1|2".toList ∧
    ¬ IsTable "1|2".toList ["1|2".toList] none ∧
    Query.isValid (some "1.a\nb*".toList) = true ∧
    Requirement.matchingElement ['1'] "1.a\nb*".toList = some "1.a\nb*".toList ∧
    ¬ IsTable "1.a\nb*".toList [['1']] none := by
  refine ⟨by decide, by decide, by decide, ?_, by decide, by decide, ?_⟩
  · intro ⟨header, border, lines, hspans, _, _, hrows⟩
    have hlines : spans (· == '\n') (render ⟨"1|2".toList,
          ["1|2".toList].map (Outcome.ofRelease "1|2".toList), none⟩) =
        [[], Markdown.header, Markdown.border, "1|2 | yes | `1|2`".toList] := by decide
    rw [hlines] at hspans
    cases hrows with
    | cons hcells hrest =>
        cases hrest
        cases hspans
        exact absurd (congrArg List.length hcells) (by decide)
  · intro ⟨header, border, lines, hspans, _, _, hrows⟩
    have hlines : spans (· == '\n') (render ⟨"1.a\nb*".toList,
          [['1']].map (Outcome.ofRelease "1.a\nb*".toList), none⟩) =
        [[], Markdown.header, Markdown.border, "1 | yes | `1.a".toList, "b*`".toList] := by decide
    rw [hlines] at hspans
    cases hrows with
    | cons hcells hrest =>
        cases hrest
        cases hspans

end VersionMatch.Report.Markdown
