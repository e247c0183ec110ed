import Mathlib.Data.List.Basic
import VersionMatch.Json

/-!
# The grammar of JSON

    element  ::= ws value ws
    value    ::= 'null' | 'true' | 'false' | number | string | array | object
    array    ::= '[' ( ws | element ( ',' element )* ) ']'
    object   ::= '{' ( ws | member ( ',' member )* ) '}'
    member   ::= ws string ws ':' element
    string   ::= '"' char* '"'
    char     ::= any character from U+0020 on but '"' and '\' | '\' escape
    escape   ::= '"' | '\' | '/' | 'b' | 'f' | 'n' | 'r' | 't' | 'u' hex hex hex hex
    number   ::= '-'? whole fraction? exponent?
    ws       ::= ( U+0020 | U+000A | U+000D | U+0009 )*

A text is read from the left, so each rule relates a text to what its beginning stands for and to
the rest of the text. `Denotes` relates a whole text to its value. The escapes of two surrogates
stand for one character, and a surrogate on its own stands for none.
-/

namespace VersionMatch.Json

/-- A value of the grammar. Numbers, which `Json` has no need of, are kept as they are written. -/
inductive Value where
  | null
  | bool (value : Bool)
  | number (literal : Text)
  | string (value : Text)
  | array (items : List Value)
  | object (members : List (Text × Value))

/-! ## White space -/

/-- The characters of white space. -/
def isSpace (c : Char) : Bool :=
  c == ' ' || c == '\n' || c == '\r' || c == '\t'

/-- `Spaces text rest` says that the text is white space, possibly none, followed by the rest. -/
inductive Spaces : Text → Text → Prop where
  | none (rest) : Spaces rest rest
  | more (c text rest) : isSpace c = true → Spaces text rest → Spaces (c :: text) rest

/-! ## Strings -/

/-- The letters after a backslash, each with the character that it stands for. -/
def escapeLetters : List (Char × Char) :=
  [('"', '"'), ('\\', '\\'), ('/', '/'), ('b', '\x08'), ('f', '\x0c'), ('n', '\n'), ('r', '\r'),
    ('t', '\t')]

/-- The number that a hexadecimal digit of either case stands for. -/
def digitValue? (c : Char) : Option Nat :=
  "0123456789abcdef".toList.idxOf? c.toLower

/-- `ReadsUnit text unit rest` says that the text is four hexadecimal digits for a 16-bit unit,
followed by the rest. -/
inductive ReadsUnit : Text → Nat → Text → Prop where
  | digits (a b c d w x y z rest) :
      digitValue? a = some w → digitValue? b = some x → digitValue? c = some y →
      digitValue? d = some z →
      ReadsUnit (a :: b :: c :: d :: rest) (((w * 16 + x) * 16 + y) * 16 + z) rest

/-- `ReadsChars text value rest` says that the text is the characters of a string and its closing
quote, followed by the rest. -/
inductive ReadsChars : Text → Text → Text → Prop where
  | close (rest) : ReadsChars ('"' :: rest) [] rest
  | plain (c text value rest) :
      ' ' ≤ c → c ≠ '"' → c ≠ '\\' → ReadsChars text value rest →
      ReadsChars (c :: text) (c :: value) rest
  | letter (letter c text value rest) :
      (letter, c) ∈ escapeLetters → ReadsChars text value rest →
      ReadsChars ('\\' :: letter :: text) (c :: value) rest
  | unit (c digits text value rest) :
      ReadsUnit digits c.toNat text → ReadsChars text value rest →
      ReadsChars ('\\' :: 'u' :: digits) (c :: value) rest
  | surrogates (c high low digits lowDigits text value rest) :
      ReadsUnit digits high ('\\' :: 'u' :: lowDigits) → 0xd800 ≤ high → high < 0xdc00 →
      ReadsUnit lowDigits low text → 0xdc00 ≤ low → low < 0xe000 →
      c.toNat = 0x10000 + (high - 0xd800) * 0x400 + (low - 0xdc00) →
      ReadsChars text value rest →
      ReadsChars ('\\' :: 'u' :: digits) (c :: value) rest

/-! ## Numbers -/

/-- One or more decimal digits. -/
def IsDigits (text : Text) : Prop :=
  text ≠ [] ∧ ∀ c ∈ text, c.isDigit = true

/-- The part of a number before the point: no further digit follows a leading zero. -/
def IsWhole (text : Text) : Prop :=
  text = ['0'] ∨ IsDigits text ∧ text.head? ≠ some '0'

/-- The part of a number from the point on, if there is one. -/
def IsFraction (text : Text) : Prop :=
  text = [] ∨ ∃ digits, IsDigits digits ∧ text = '.' :: digits

/-- The exponent of a number, if there is one. -/
def IsExponent (text : Text) : Prop :=
  text = [] ∨ ∃ mark sign digits, mark ∈ ['e', 'E'] ∧ sign ∈ [[], ['+'], ['-']] ∧
    IsDigits digits ∧ text = mark :: (sign ++ digits)

/-- A number: an optional minus sign and the three parts. -/
def IsNumber (text : Text) : Prop :=
  ∃ sign whole fraction exponent, sign ∈ [[], ['-']] ∧ IsWhole whole ∧ IsFraction fraction ∧
    IsExponent exponent ∧ text = sign ++ whole ++ fraction ++ exponent

/-! ## Values -/

/-- `ReadsList closing ReadsItem text items rest` says that the text is one or more items with
commas between them and a closing bracket, followed by the rest. -/
inductive ReadsList {α : Type} (closing : Char) (ReadsItem : Text → α → Text → Prop) :
    Text → List α → Text → Prop where
  | last (text item rest) :
      ReadsItem text item (closing :: rest) → ReadsList closing ReadsItem text [item] rest
  | more (text item later items rest) :
      ReadsItem text item (',' :: later) → ReadsList closing ReadsItem later items rest →
      ReadsList closing ReadsItem text (item :: items) rest

/-- `ReadsBracketed opening closing ReadsItem text items rest` says that the text is any number of
items between two brackets, followed by the rest. -/
inductive ReadsBracketed {α : Type} (opening closing : Char) (ReadsItem : Text → α → Text → Prop) :
    Text → List α → Text → Prop where
  | none (text rest) :
      Spaces text (closing :: rest) →
      ReadsBracketed opening closing ReadsItem (opening :: text) [] rest
  | some (text items rest) :
      ReadsList closing ReadsItem text items rest →
      ReadsBracketed opening closing ReadsItem (opening :: text) items rest

mutual

/-- `ReadsValue text value rest` says that the text is that of a value, followed by the rest. -/
inductive ReadsValue : Text → Value → Text → Prop where
  | wordNull (rest) : ReadsValue ('n' :: 'u' :: 'l' :: 'l' :: rest) .null rest
  | wordTrue (rest) : ReadsValue ('t' :: 'r' :: 'u' :: 'e' :: rest) (.bool true) rest
  | wordFalse (rest) : ReadsValue ('f' :: 'a' :: 'l' :: 's' :: 'e' :: rest) (.bool false) rest
  | number (literal text rest) :
      IsNumber literal → text = literal ++ rest → ReadsValue text (.number literal) rest
  | string (text value rest) :
      ReadsChars text value rest → ReadsValue ('"' :: text) (.string value) rest
  | array (text items rest) :
      ReadsBracketed '[' ']' ReadsElement text items rest → ReadsValue text (.array items) rest
  | object (text members rest) :
      ReadsBracketed '{' '}' ReadsMember text members rest → ReadsValue text (.object members) rest

/-- `ReadsElement text value rest` says that the text is that of a value with white space on both
sides, followed by the rest. -/
inductive ReadsElement : Text → Value → Text → Prop where
  | element (text start value after rest) :
      Spaces text start → ReadsValue start value after → Spaces after rest →
      ReadsElement text value rest

/-- `ReadsMember text member rest` says that the text is a key, a colon and the element for it,
followed by the rest. -/
inductive ReadsMember : Text → Text × Value → Text → Prop where
  | member (text chars key after later value rest) :
      Spaces text ('"' :: chars) → ReadsChars chars key after → Spaces after (':' :: later) →
      ReadsElement later value rest →
      ReadsMember text (key, value) rest

end

/-- `Denotes text value` says that the whole text is one JSON value. -/
def Denotes (text : Text) (value : Value) : Prop :=
  ReadsElement text value []

/-! ## The values that are written -/

mutual

/-- A value as one of the grammar. -/
def toValue : Json → Value
  | .null => .null
  | .bool value => .bool value
  | .string value => .string value
  | .array items => .array (toValues items)
  | .object members => .object (toMembers members)

/-- The items of an array as values of the grammar. -/
def toValues : List Json → List Value
  | [] => []
  | item :: items => toValue item :: toValues items

/-- The members of an object with values of the grammar. -/
def toMembers : List (Text × Json) → List (Text × Value)
  | [] => []
  | (key, value) :: members => (key, toValue value) :: toMembers members

end

end VersionMatch.Json
