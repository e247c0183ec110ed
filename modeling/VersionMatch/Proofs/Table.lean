import Mathlib.Algebra.GroupWithZero.Nat
import Mathlib.Data.List.Forall2
import VersionMatch.Proofs.Text.Word
import VersionMatch.Table

/-!
# Where the cells of a table stand

The width of a column is that of its longest cell. Each cell begins where the columns in front of
it and the spaces behind them end, so a character has the same place in a line as in its cell,
counted from there; all other places are blank. `lines_aligned` states this for all rows at once.
Filling up a cell and trimming a line change nothing but blanks, which is why the statement is about
the characters that are not blank. For the same reason a line can be read back: by `words_line`, its
words are the cells of its row if these have no blanks.
-/

namespace VersionMatch.Table

open Text

/-- The place at which a column begins, in columns of given widths. -/
def offset (widths : List Nat) (column : Nat) : Nat :=
  ((widths.take column).map (· + 1)).sum

/-- The cells of a row have columns that are wide enough. -/
def Fits (row : List Text) (widths : List Nat) : Prop :=
  ∀ (column : Nat) (cell : Text), row[column]? = some cell →
    ∃ width, widths[column]? = some width ∧ cell.length ≤ width

variable {rows : List (List Text)} {row : List Text} {widths : List Nat} {c : Char}

/-! ## Widths -/

/-- The width of a column is the length of the longest cell in it; behind the last cell of the
longest row there are no columns. -/
theorem widths_get (rows : List (List Text)) (column : Nat) :
    (Table.widths rows)[column]? =
      (rows.filterMap fun row => row[column]?.map List.length).max? := by
  induction rows with
  | nil => rfl
  | cons row rows ih =>
      show (widen row (Table.widths rows))[column]? = _
      rw [widen, List.getElem?_zipWithAll, ih, List.filterMap_cons]
      generalize (rows.filterMap fun row => row[column]?.map List.length) = lengths
      cases row[column]? with
      | none =>
          simp only [Option.map_none]
          cases lengths.max? with
          | none => rfl
          | some width => exact congrArg some (Nat.zero_max width)
      | some cell =>
          simp only [Option.map_some, List.max?_cons]
          cases lengths.max? with
          | none => exact congrArg some (Nat.max_zero cell.length)
          | some width => rfl

theorem length_widen (row : List Text) (widths : List Nat) :
    (widen row widths).length = max row.length widths.length := by
  induction row generalizing widths with
  | nil => simp [widen, List.zipWithAll]
  | cons cell rest ih =>
      cases widths with
      | nil => simp [widen, List.zipWithAll]
      | cons width widths =>
          show (widen rest widths).length + 1 = _
          rw [ih, List.length_cons, List.length_cons]
          omega

/-- There are as many columns as the longest row has cells. -/
theorem length_widths (rows : List (List Text)) :
    (Table.widths rows).length = (rows.map List.length).max?.getD 0 := by
  induction rows with
  | nil => rfl
  | cons row rows ih =>
      show (widen row (Table.widths rows)).length = _
      rw [length_widen, ih, List.map_cons, List.max?_cons]
      cases (rows.map List.length).max? with
      | none => exact Nat.max_zero row.length
      | some length => rfl

/-- The columns of a table are wide enough for each of its rows. -/
theorem fits_widths (h : row ∈ rows) : Fits row (Table.widths rows) := by
  intro column cell hcell
  have hmem : cell.length ∈ rows.filterMap fun row => row[column]?.map List.length :=
    List.mem_filterMap.2 ⟨row, h, by rw [hcell, Option.map_some]⟩
  rw [widths_get]
  cases hmax : (rows.filterMap fun row => row[column]?.map List.length).max? with
  | none =>
      rw [List.max?_eq_none_iff.1 hmax] at hmem
      cases hmem
  | some width => exact ⟨width, rfl, (List.max?_eq_some_iff.1 hmax).2 _ hmem⟩

theorem Fits.length_le (h : Fits row widths) (column : Nat) {cell : Text} {width : Nat}
    (hcell : row[column]? = some cell) (hwidth : widths[column]? = some width) :
    cell.length ≤ width := by
  obtain ⟨found, hfound, hle⟩ := h column cell hcell
  rw [hfound] at hwidth
  cases hwidth
  exact hle

/-! ## Lines -/

theorem length_pad {cell : Text} {width : Nat} (h : cell.length ≤ width) :
    (pad cell width).length = width := by
  rw [pad, List.length_rightpad]
  exact Nat.max_eq_left h

/-- Filling up a cell adds blanks only. -/
theorem get_pad (hc : isBlank c = false) (cell : Text) (width p : Nat) :
    (pad cell width)[p]? = some c ↔ cell[p]? = some c :=
  get_append_blanks (all_blank_spaces _) hc p

theorem get_append_iff (left right : Text) (p : Nat) :
    (left ++ right)[p]? = some c ↔
      left[p]? = some c ∨ ∃ q, p = left.length + q ∧ right[q]? = some c := by
  by_cases hp : p < left.length
  · rw [List.getElem?_append_left hp]
    refine (or_iff_left ?_).symm
    intro ⟨q, hq, _⟩
    omega
  · have hle : left.length ≤ p := Nat.le_of_not_lt hp
    rw [List.getElem?_append_right hle, List.getElem?_eq_none hle]
    constructor
    · intro hget
      exact .inr ⟨p - left.length, by omega, hget⟩
    · intro h
      obtain ⟨q, rfl, hget⟩ := h.resolve_left nofun
      rwa [Nat.add_sub_cancel_left]

/-- What is not blank in joined texts belongs to the first of them or stands behind the space that
follows it. -/
theorem get_join_cons (hc : isBlank c = false) (first : Text) (others : List Text) (p : Nat) :
    (join [' '] (first :: others))[p]? = some c ↔
      first[p]? = some c ∨ ∃ q, p = first.length + 1 + q ∧ (join [' '] others)[q]? = some c := by
  cases others with
  | nil => simp [join, List.intercalate]
  | cons second others =>
      have hspace : AllBlank [' '] := all_blank_spaces 1
      rw [join, List.intercalate_cons_cons, get_append_iff, get_append_blanks hspace hc,
        List.length_append]
      rfl

theorem offset_cons_succ (width : Nat) (widths : List Nat) (column : Nat) :
    offset (width :: widths) (column + 1) = width + 1 + offset widths column :=
  List.sum_cons

/-- A character that is not blank has the place in joined cells that it has in its cell, counted
from where the column begins. -/
theorem get_join_pad (h : Fits row widths) (hc : isBlank c = false) (p : Nat) :
    (join [' '] (List.zipWith pad row widths))[p]? = some c ↔
      ∃ (column : Nat) (cell : Text) (k : Nat),
        row[column]? = some cell ∧ cell[k]? = some c ∧ p = offset widths column + k := by
  induction row generalizing widths p with
  | nil => simp [join, List.intercalate]
  | cons cell rest ih =>
      obtain ⟨width, hwidth, hle⟩ := h 0 cell rfl
      obtain ⟨widths, rfl⟩ := List.head?_eq_some_iff.1 (List.head?_eq_getElem?.trans hwidth)
      have hrest : Fits rest widths := fun column => h (column + 1)
      rw [List.zipWith_cons_cons, get_join_cons hc, length_pad hle, get_pad hc]
      refine Iff.trans (or_congr ?_ ?_) Nat.or_exists_add_one
      · -- The first cell begins at the start of the line.
        constructor
        · intro hget
          exact ⟨cell, p, rfl, hget, (Nat.zero_add p).symm⟩
        · rintro ⟨first, k, hfirst, hget, hp⟩
          cases hfirst
          rwa [hp, show offset (width :: widths) 0 + k = k from Nat.zero_add k]
      · -- The others stand behind the first column and the space after it.
        simp only [ih hrest, offset_cons_succ, List.getElem?_cons_succ]
        constructor
        · rintro ⟨q, hp, column, other, k, hother, hget, hq⟩
          exact ⟨column, other, k, hother, hget, by omega⟩
        · rintro ⟨column, other, k, hother, hget, hp⟩
          exact ⟨offset widths column + k, by omega, column, other, k, hother, hget, rfl⟩

/-- The places of a line that are not blank are those of the cells of its row. -/
theorem line_get_iff (h : Fits row widths) (hc : isBlank c = false) (p : Nat) :
    (line widths row)[p]? = some c ↔
      ∃ (column : Nat) (cell : Text) (k : Nat),
        row[column]? = some cell ∧ cell[k]? = some c ∧ p = offset widths column + k := by
  obtain ⟨after, hafter, hjoin⟩ := exists_trim_end_append (join [' '] (List.zipWith pad row widths))
  rw [← get_join_pad h hc p, hjoin, get_append_blanks hafter hc]
  rfl

/-! ## Reading a line -/

/-- Filled up and joined cells hold the characters of the cells, and spaces. -/
theorem mem_of_mem_join_pad (h : c ∈ join [' '] (List.zipWith pad row widths)) :
    c = ' ' ∨ ∃ cell ∈ row, c ∈ cell := by
  rcases mem_of_mem_join h with hspace | ⟨padded, hpadded, hc⟩
  · exact .inl hspace
  · obtain ⟨column, hcolumn⟩ := List.mem_iff_getElem?.1 hpadded
    obtain ⟨cell, width, hcell, -, rfl⟩ := List.getElem?_zipWith_eq_some.1 hcolumn
    rcases List.mem_append.1 hc with hc | hc
    · exact .inr ⟨cell, List.mem_of_getElem? hcell, hc⟩
    · exact .inl (List.eq_of_mem_replicate hc)

/-- So does a line. -/
theorem mem_of_mem_line (h : c ∈ line widths row) : c = ' ' ∨ ∃ cell ∈ row, c ∈ cell := by
  obtain ⟨after, -, hjoin⟩ := exists_trim_end_append (join [' '] (List.zipWith pad row widths))
  have hmem : c ∈ join [' '] (List.zipWith pad row widths) := by
    rw [hjoin]
    exact List.mem_append_left after h
  exact mem_of_mem_join_pad hmem

/-- Filling up cells adds no words, if every cell has a column. -/
theorem flat_map_words_pad (h : row.length ≤ widths.length) :
    (List.zipWith pad row widths).flatMap words = row.flatMap words := by
  induction row generalizing widths with
  | nil => rfl
  | cons cell rest ih =>
      cases widths with
      | nil => cases h
      | cons width widths =>
          have hcell : words (pad cell width) = words cell := words_append_spaces cell _
          rw [List.zipWith_cons_cons, List.flatMap_cons, List.flatMap_cons, hcell,
            ih (Nat.le_of_succ_le_succ h)]

/-- The words of a line are the cells of its row, if these have no blanks; the empty cells leave no
trace. -/
theorem words_line (hfree : ∀ cell ∈ row, BlankFree cell) (h : row.length ≤ widths.length) :
    words (line widths row) = row.filter fun cell => !cell.isEmpty := by
  have hspaces : ∀ c ∈ join [' '] (List.zipWith pad row widths), isBlank c = true → c = ' ' := by
    intro c hc hblank
    refine (mem_of_mem_join_pad hc).resolve_right ?_
    intro ⟨cell, hcell, hmem⟩
    exact (hfree cell hcell).not_mem hblank hmem
  have hwords : ∀ cell ∈ row, words cell = [cell].filter fun cell => !cell.isEmpty :=
    fun cell hcell => words_of_free ((hfree cell hcell).not_mem rfl)
  rw [line, words_trim_end hspaces, words_join, flat_map_words_pad h, List.flatMap_congr hwords,
    ← List.filter_flatMap, List.flatMap_singleton']

/-- A table has a line for each row, and as many columns as the longest row has cells. A column is
as wide as the longest cell in it. Each character of a cell that is not blank stands in the line of
its row behind the columns in front of its cell, one space after each of them, and whatever else a
line holds is blank. No line ends with a blank. -/
theorem lines_aligned (rows : List (List Text)) :
    (Table.widths rows).length = (rows.map List.length).max?.getD 0 ∧
    (∀ column : Nat, (Table.widths rows)[column]? =
      (rows.filterMap fun row => row[column]?.map List.length).max?) ∧
    List.Forall₂ (fun row text =>
      (∀ (p : Nat) (c : Char), isBlank c = false →
        (text[p]? = some c ↔ ∃ (column : Nat) (cell : Text) (k : Nat),
          row[column]? = some cell ∧ cell[k]? = some c ∧
          p = offset (Table.widths rows) column + k)) ∧
      ∀ c ∈ text.getLast?, isBlank c = false) rows (lines rows) := by
  refine ⟨length_widths rows, widths_get rows, ?_⟩
  rw [lines, List.forall₂_map_right_iff, List.forall₂_same]
  intro row hrow
  exact ⟨fun p c hc => line_get_iff (fits_widths hrow) hc p, fun c => last_of_trim_end c⟩

end VersionMatch.Table
