import VersionMatch.Text.Basic
import VersionMatch.Text.Printable

/-!
# Quoted texts

Messages show a text between quotes, on one line and in printable characters only. The quote is an
apostrophe unless the text holds an apostrophe and no double quote. A backslash and the quote in
use are written after a backslash, tab, line feed and carriage return by a letter, and every other
character that is not printable by its code.
-/

namespace VersionMatch.Text

/-- The escape that names a character by its code, in the shortest of the three widths. -/
def codeEscape (c : Char) : Text :=
  if c.toNat < 0x100 then '\\' :: 'x' :: hexadecimal 2 c.toNat
  else if c.toNat < 0x10000 then '\\' :: 'u' :: hexadecimal 4 c.toNat
  else '\\' :: 'U' :: hexadecimal 8 c.toNat

/-- How a character is written between quotes `mark`. -/
def quotedChar (mark c : Char) : Text :=
  if c == mark || c == '\\' then ['\\', c]
  else if c == '\t' then ['\\', 't']
  else if c == '\n' then ['\\', 'n']
  else if c == '\r' then ['\\', 'r']
  else if isPrintable c then [c]
  else codeEscape c

/-- The quote in use around a text. -/
def quoteMark (text : Text) : Char :=
  if text.contains '\'' && !text.contains '"' then '"' else '\''

/-- The text between quotes. -/
def quoted (text : Text) : Text :=
  quoteMark text :: (text.flatMap (quotedChar (quoteMark text)) ++ [quoteMark text])

/-- An optional text between quotes; an absent one is written `None`. -/
def quotedOption : Option Text → Text
  | some text => quoted text
  | none => "None".toList

end VersionMatch.Text
