import VersionMatch.CommandLine.UsageError
import VersionMatch.Text.DecimalDigit

/-!
# Words of the command line

Every argument is either an operand or an option. A long option may be shortened as long as one
option only begins that way, and may carry a value after an equals sign. A short option may carry a
value directly after its letter or after an equals sign. An argument that begins with a dash is an
operand all the same if it is a single dash, looks like a negative number, or holds a space and is
no option. After the first double dash every argument is an operand. These are the rules of the
option reader up to its version 3.11.8, which later versions changed in corners.
-/

namespace VersionMatch.CommandLine

/-- An option as it is used in an argument. -/
structure Usage where
  switch : Switch
  /-- Whether the option is spelled with one letter. -/
  isShort : Bool
  /-- What follows the option in the same argument, without the equals sign between the two. -/
  attached : Option Text
  deriving DecidableEq

/-- An argument that is no option. -/
inductive Operand where
  | plain (text : Text)
  /-- The first double dash. -/
  | doubleDash
  deriving DecidableEq

/-- An argument with the form of an option. -/
inductive Dashed where
  | option (usage : Usage)
  /-- No option is spelled like this. -/
  | unknown (text : Text)
  deriving DecidableEq

/-- An argument, as far as it can be understood by itself. -/
inductive Word where
  | operand (operand : Operand)
  | dashed (dashed : Dashed)
  deriving DecidableEq

/-- The argument that ends the options. -/
def endOfOptions : Text := ['-', '-']

/-- The argument that an operand comes from. -/
def Operand.text : Operand → Text
  | .plain text => text
  | .doubleDash => endOfOptions

namespace Word

/-- Whether a spelling is that of a short option: its second character is no dash. -/
def isShort (spelling : Text) : Bool :=
  spelling[1]? != some '-'

/-- A text as far as its first equals sign, and what follows that sign. -/
def cutAtEquals (text : Text) : Text × Option Text :=
  match text.dropWhile (· != '=') with
  | [] => (text, none)
  | _ :: value => (text.takeWhile (· != '='), some value)

/-- The option that an argument spells out, alone or before an equals sign. -/
def spelledOut? (argument : Text) : Option Usage :=
  match Switch.ofSpelling? argument, cutAtEquals argument with
  | some switch, _ => some ⟨switch, isShort argument, none⟩
  | none, (spelling, some value) =>
    (Switch.ofSpelling? spelling).map fun switch => ⟨switch, isShort spelling, some value⟩
  | none, (_, none) => none

/-- The options that an argument may stand for if it spells none of them out, each with its
spelling: the options that begin with it, or the short option whose letter it begins with. -/
def candidates (argument : Text) : List (Text × Usage) :=
  if isShort argument then
    (Switch.spellings.filter fun entry => entry.1 == argument.take 2).map fun entry =>
      (entry.1, ⟨entry.2, true, some (argument.drop 2)⟩)
  else
    let (start, value) := cutAtEquals argument
    (Switch.spellings.filter fun entry => start.isPrefixOf entry.1).map fun entry =>
      (entry.1, ⟨entry.2, false, value⟩)

/-- Whether a text looks like a negative number: a dash, then digits, or a point between digits of
which the first may be missing. A line feed may follow. -/
def looksNegative (text : Text) : Bool :=
  let number := if text.getLast? == some '\n' then text.dropLast else text
  let digits := number.drop 1
  number.head? == some '-' &&
    match digits.dropWhile Text.isDecimalDigit with
    | [] => !digits.isEmpty
    | c :: fraction => c == '.' && !fraction.isEmpty && fraction.all Text.isDecimalDigit

/-- Understands an argument that begins with a dash and does not spell out an option. -/
def ofDashed (argument : Text) : Except UsageError Word :=
  match candidates argument with
  | [(_, usage)] => .ok (.dashed (.option usage))
  | [] =>
    if looksNegative argument || argument.contains ' ' then .ok (.operand (.plain argument))
    else .ok (.dashed (.unknown argument))
  | several => .error (.ambiguous argument (several.map (·.1)))

/-- Understands an argument before the double dash. -/
def ofArgument (argument : Text) : Except UsageError Word :=
  if argument.head? != some '-' then .ok (.operand (.plain argument))
  else match spelledOut? argument with
    | some usage => .ok (.dashed (.option usage))
    | none => if argument.length == 1 then .ok (.operand (.plain argument)) else ofDashed argument

/-- Understands each of the arguments. -/
def ofArguments : List Text → Except UsageError (List Word)
  | [] => .ok []
  | argument :: rest =>
    if argument == endOfOptions then
      .ok (.operand .doubleDash :: rest.map fun text => .operand (.plain text))
    else
      match ofArgument argument, ofArguments rest with
      | .ok word, .ok words => .ok (word :: words)
      | .error error, _ => .error error
      | .ok _, .error error => .error error

end Word

end VersionMatch.CommandLine
