import VersionMatch.Text.Basic

/-!
# JSON

JSON values and how they are written: on one line, a space after each comma and each colon, and in
printable ASCII characters only. Every other character of a string is written by an escape, one
above U+FFFF by the escapes of its two surrogates.
-/

namespace VersionMatch

/-- A JSON value. The members of an object keep their order. -/
inductive Json where
  | null
  | bool (value : Bool)
  | string (value : Text)
  | array (items : List Json)
  | object (members : List (Text × Json))

namespace Json

/-- A text as a string, an absent one as null. -/
def ofOption : Option Text → Json
  | some text => .string text
  | none => .null

/-- The one or two 16-bit units of a character. -/
def units (c : Char) : List Nat :=
  if c.toNat < 0x10000 then [c.toNat]
  else [0xd800 + (c.toNat - 0x10000) / 0x400, 0xdc00 + (c.toNat - 0x10000) % 0x400]

/-- The escape of a 16-bit unit. -/
def unitEscape (unit : Nat) : Text :=
  '\\' :: 'u' :: Text.hexadecimal 4 unit

/-- The characters that have a short escape, each with the letter that stands for it. -/
def shortEscapes : List (Char × Char) :=
  [('"', '"'), ('\\', '\\'), ('\n', 'n'), ('\r', 'r'), ('\t', 't'), ('\x08', 'b'), ('\x0c', 'f')]

/-- How a character is written inside a string. -/
def escape (c : Char) : Text :=
  match shortEscapes.lookup c with
  | some letter => ['\\', letter]
  | none => if ' ' ≤ c && c ≤ '~' then [c] else (units c).flatMap unitEscape

/-- A string between double quotes. -/
def renderString (value : Text) : Text :=
  '"' :: (value.flatMap escape ++ ['"'])

/-- The word for a truth value. -/
def renderBool (value : Bool) : Text :=
  if value then "true".toList else "false".toList

mutual

/-- The text of a value. -/
def render : Json → Text
  | .null => "null".toList
  | .bool value => renderBool value
  | .string value => renderString value
  | .array [] => ['[', ']']
  | .array (item :: items) => '[' :: (render item ++ renderItems items ++ [']'])
  | .object [] => ['{', '}']
  | .object ((key, value) :: members) =>
    '{' :: (renderString key ++ ": ".toList ++ render value ++ renderMembers members ++ ['}'])

/-- The items of an array after its first, each after a comma. -/
def renderItems : List Json → Text
  | [] => []
  | item :: items => ", ".toList ++ render item ++ renderItems items

/-- The members of an object after its first, each after a comma. -/
def renderMembers : List (Text × Json) → Text
  | [] => []
  | (key, value) :: members =>
    ", ".toList ++ renderString key ++ ": ".toList ++ render value ++ renderMembers members

end

end Json

end VersionMatch
