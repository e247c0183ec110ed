import VersionMatch.CommandLine.Word

/-!
# What a command line asks for

The options of a command line are carried out in order, each with its value. The first run of
operands between options holds the version-string and the releases; all other operands, and options
that do not exist, are left over. A plan lists all of this, as far as the command line is in order.

The rules are those of the option reader up to its version 3.11.8. Later versions take a double dash
that is attached to an option for its value. Behind the letters of flags they leave out an equals
sign in front of a value, and they read no more letters behind an equals sign.
-/

namespace VersionMatch.CommandLine

/-- The version-string and the releases of a command line. -/
structure Operands where
  versionString : Text
  releases : List Text
  deriving DecidableEq

/-- An option, ready to be carried out. -/
inductive Action where
  | raise (flag : Flag)
  /-- The option takes a value, and names one unless the value is missing. -/
  | set (parameter : Parameter) (value : Option Text)
  deriving DecidableEq

/-- The action of an option with a value. The double dash is never a value, not even where it is
attached to the option, which then stays without one. -/
def Action.ofValue (parameter : Parameter) (value : Text) : Action :=
  .set parameter (if value == endOfOptions then none else some value)

/-- What a command line asks for, and the error, if any, that ends the list of actions. -/
structure Plan where
  actions : List Action
  operands : Option Operands
  leftover : List Text
  error : Option UsageError
  deriving DecidableEq

/-- What an argument with options asks for. -/
structure Reading where
  actions : List Action
  /-- An option that takes its value from the next argument. -/
  awaiting : Option Parameter
  deriving DecidableEq

namespace Reading

/-- The reading with one more flag before it. -/
def after (flag : Flag) (reading : Reading) : Reading :=
  ⟨.raise flag :: reading.actions, reading.awaiting⟩

/-- An option that is waiting for its value. -/
def ofParameter (parameter : Parameter) : Reading :=
  ⟨[], some parameter⟩

/-- An option with its value. -/
def ofValue (parameter : Parameter) (value : Text) : Reading :=
  ⟨[.ofValue parameter value], none⟩

/-- Reads the letters that follow a flag of one letter. Each is an option of its own, up to one
that takes the rest as its value. A character that is no option makes the rest a value that the
option before it does not take. -/
def ofLetters (flag : Flag) : Text → Except UsageError Reading
  | [] => .ok ⟨[.raise flag], none⟩
  | letter :: rest =>
    match Switch.ofSpelling? ['-', letter] with
    | none => .error (.ignoredValue flag (letter :: rest))
    | some (.flag next) => (ofLetters next rest).map (after flag)
    | some (.parameter parameter) =>
      .ok (after flag (if rest.isEmpty then ofParameter parameter else ofValue parameter rest))

/-- Reads an argument that is an option. What is attached to a flag of one letter is more letters,
whether or not an equals sign stands before them. -/
def ofUsage (usage : Usage) : Except UsageError Reading :=
  match usage.switch, usage.attached with
  | .parameter parameter, none => .ok (ofParameter parameter)
  | .parameter parameter, some value => .ok (ofValue parameter value)
  | .flag flag, none => .ok ⟨[.raise flag], none⟩
  | .flag flag, some value =>
    if usage.isShort && !value.isEmpty then ofLetters flag value
    else .error (.ignoredValue flag value)

end Reading

namespace Operands

/-- The operands of a run: the version-string, then the releases. The double dash may stand beside
the version-string; otherwise the first double dash among the releases is dropped. -/
def ofRun? : List Operand → Option Operands
  | .plain versionString :: .doubleDash :: releases
  | .doubleDash :: .plain versionString :: releases
  | .plain versionString :: releases =>
    some ⟨versionString, (releases.map Operand.text).erase endOfOptions⟩
  | _ => none

end Operands

namespace Plan

/-- The operands so far and the arguments that a run of operands leaves over. Only the first run
with a version-string counts. -/
def settle (operands : Option Operands) (run : List Operand) : Option Operands × List Text :=
  match operands, Operands.ofRun? run with
  | none, some found => (some found, [])
  | operands, _ => (operands, run.map Operand.text)

/-- Words in groups: a run of operands, and then each dashed argument with the run after it. -/
structure Groups where
  first : List Operand
  others : List (Dashed × List Operand)

/-- Puts a word in front of groups. -/
def Groups.cons (word : Word) (groups : Groups) : Groups :=
  match word with
  | .operand operand => ⟨operand :: groups.first, groups.others⟩
  | .dashed dashed => ⟨[], (dashed, groups.first) :: groups.others⟩

/-- The groups of a list of words. -/
def Groups.ofWords (words : List Word) : Groups :=
  words.foldr Groups.cons ⟨[], []⟩

/-- What a dashed argument asks for, what it leaves over, and what is left of the run after it. -/
structure GroupReading where
  actions : List Action
  leftover : List Text
  rest : List Operand

/-- Reads a dashed argument, with the value that it takes from the run after it. -/
def readGroup (dashed : Dashed) (run : List Operand) : Except UsageError GroupReading :=
  match dashed with
  | .unknown text => .ok ⟨[], [text], run⟩
  | .option usage =>
    match Reading.ofUsage usage with
    | .error error => .error error
    | .ok ⟨actions, none⟩ => .ok ⟨actions, [], run⟩
    | .ok ⟨actions, some parameter⟩ =>
      match run with
      | .plain value :: rest => .ok ⟨actions ++ [.ofValue parameter value], [], rest⟩
      | _ => .error (.missingValue parameter)

/-- The plan of groups, given the operands found before them. -/
def ofGroups (operands : Option Operands) : List (Dashed × List Operand) → Plan
  | [] => ⟨[], operands, [], none⟩
  | (dashed, run) :: others =>
    match readGroup dashed run with
    | .error error => ⟨[], operands, [], some error⟩
    | .ok ⟨actions, unknown, rest⟩ =>
      let (operands, leftover) := settle operands rest
      let plan := ofGroups operands others
      ⟨actions ++ plan.actions, plan.operands, unknown ++ leftover ++ plan.leftover, plan.error⟩

/-- The plan of a list of words. -/
def ofWords (words : List Word) : Plan :=
  let groups := Groups.ofWords words
  let (operands, leftover) := settle none groups.first
  let plan := ofGroups operands groups.others
  ⟨plan.actions, plan.operands, leftover ++ plan.leftover, plan.error⟩

/-- The plan of the arguments. An argument that cannot be understood leaves nothing but its
error. -/
def ofArguments (arguments : List Text) : Plan :=
  match Word.ofArguments arguments with
  | .ok words => ofWords words
  | .error error => ⟨[], none, [], some error⟩

/-- The paths of the release files that are named, in order. -/
def releaseFiles (plan : Plan) : List Text :=
  plan.actions.filterMap fun action =>
    match action with
    | .set .releaseFile path => path
    | _ => none

end Plan

end VersionMatch.CommandLine
