import VersionMatch.Text.Blank

/-!
# Tables

Rows of cells are laid out in columns. A column is as wide as its longest cell, a space stands
between neighbouring columns, and no line ends in a blank. The rows may have different lengths.
-/

namespace VersionMatch

/-- A value that can stand in a table. -/
inductive Cell where
  | text (value : Text)
  | integer (value : Int)
  | truth (value : Bool)
  | absent

/-- The text of a cell. -/
def Cell.render : Cell → Text
  | .text value => value
  | .integer value => Text.ofInt value
  | .truth true => "True".toList
  | .truth false => "False".toList
  | .absent => "None".toList

namespace Table

/-- The widths of columns that hold both the columns of given widths and the cells of a row. -/
def widen (row : List Text) (widths : List Nat) : List Nat :=
  List.zipWithAll (fun cell width => max ((cell.map List.length).getD 0) (width.getD 0)) row widths

/-- The width of each column: the length of its longest cell. -/
def widths (rows : List (List Text)) : List Nat :=
  rows.foldr widen []

/-- A cell filled up with spaces to a width. -/
def pad (cell : Text) (width : Nat) : Text :=
  cell.rightpad width ' '

/-- A row laid out in columns of given widths. -/
def line (widths : List Nat) (row : List Text) : Text :=
  Text.trimEnd (Text.join [' '] (List.zipWith pad row widths))

/-- The rows laid out in columns. -/
def lines (rows : List (List Text)) : List Text :=
  rows.map (line (widths rows))

/-- A dash in every place of every column. -/
def rule (widths : List Nat) : Text :=
  Text.join [' '] (widths.map fun width => List.replicate width '-')

end Table

end VersionMatch
