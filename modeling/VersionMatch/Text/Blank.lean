import VersionMatch.Text.Basic

/-!
# Blank characters

The blank characters are the white space of Unicode together with the four information separators
U+001C to U+001F. Zero-width characters and the byte order mark are not blank.
-/

namespace VersionMatch.Text

/-- The code points of the blank characters, as ranges with both ends included. -/
def blankRanges : List (Nat × Nat) :=
  [(0x09, 0x0d), (0x1c, 0x20), (0x85, 0x85), (0xa0, 0xa0), (0x1680, 0x1680), (0x2000, 0x200a),
    (0x2028, 0x2029), (0x202f, 0x202f), (0x205f, 0x205f), (0x3000, 0x3000)]

/-- Whether a character is blank. -/
def isBlank (c : Char) : Bool :=
  blankRanges.any fun range => range.1 ≤ c.toNat && c.toNat ≤ range.2

/-- The text without the blank characters at its start. -/
def trimStart (text : Text) : Text :=
  text.dropWhile isBlank

/-- The text without the blank characters at its end. -/
def trimEnd (text : Text) : Text :=
  (text.reverse.dropWhile isBlank).reverse

/-- The text without the blank characters at either end. -/
def trim (text : Text) : Text :=
  trimEnd (trimStart text)

end VersionMatch.Text
