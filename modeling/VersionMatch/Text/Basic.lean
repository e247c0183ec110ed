/-!
# Texts

A text is the list of its characters, so lengths, positions and comparisons count code points.
Everything in the library that splits, compares or prints works on such lists; strings appear only
where a program reads or writes.
-/

namespace VersionMatch

/-- A text: the list of its characters. -/
abbrev Text := List Char

namespace Text

/-- The text of an optional argument: an absent one acts as the empty text. -/
def orEmpty (text : Option Text) : Text :=
  text.getD []

/-- The decimal digits of a natural number. -/
def ofNat (n : Nat) : Text :=
  Nat.toDigits 10 n

/-- The decimal digits of an integer, after a minus sign if it is negative. -/
def ofInt : Int → Text
  | .ofNat n => ofNat n
  | .negSucc n => '-' :: ofNat (n + 1)

/-- The lower-case hexadecimal numeral of `n`, padded with zeros to at least `width` digits. -/
def hexadecimal (width n : Nat) : Text :=
  (Nat.toDigits 16 n).leftpad width '0'

/-- The texts in order, with a separator between neighbours. -/
def join (separator : Text) (texts : List Text) : Text :=
  List.intercalate separator texts

end Text

end VersionMatch
