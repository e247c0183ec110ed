import VersionMatch.CommandLine.Plan
import VersionMatch.ReleaseList
import VersionMatch.Report.Format

/-!
# Settings of a run

Carrying out the actions of a command line collects the settings of the run. A release file is
opened as soon as its option is reached, so its contents are those from before the run. Only reading
it later shows whether they are a text. The first action that fails, or that asks for help or the
version, ends the collection.
-/

namespace VersionMatch.CommandLine

/-- What can be read to its end. -/
inductive Contents where
  | decoded (text : Text)
  /-- Something that is no text, with the complaint about it. -/
  | undecodable (complaint : Text)
  deriving DecidableEq

/-- The text of contents, or the complaint about them. -/
def Contents.decode : Contents → Except Text Text
  | .decoded text => .ok text
  | .undecodable complaint => .error complaint

/-- Where releases are read from: the standard input or an open file. -/
inductive Source where
  | standardInput (contents : Contents)
  | file (path : Text) (contents : Contents)
  deriving DecidableEq

namespace Source

/-- The lines of a source. A file may end its lines in any way, the standard input ends them with
line feeds only. -/
def lines : Source → Except Text (List Text)
  | .standardInput contents => contents.decode.map Text.lines
  | .file _ contents => contents.decode.map fun text => Text.lines (Text.normaliseLineEnds text)

/-- The releases that a source lists, in order. -/
def releases (source : Source) : Except Text (List Text) :=
  source.lines.map ReleaseList.ofLines

/-- Whether a source is the standard input. -/
def isStandardInput : Source → Bool
  | .standardInput _ => true
  | .file .. => false

end Source

/-- Where a report is written to: the standard output or the file at a path. -/
inductive Destination where
  | standardOutput
  | file (path : Text)
  deriving DecidableEq

/-- The destination that a path names. The names of the standard output count in any form that
normalises to them. -/
def Destination.ofPath (path : Text) : Destination :=
  if [['-'], "stdout".toList].contains (Path.normalise path) then .standardOutput
  else .file (Path.normalise path)

/-- What the options of a command line choose, the format apart. -/
structure Choices where
  /-- The release files, in order. One is missing where an option names none. -/
  sources : List (Option Source)
  select : Bool
  validate : Bool
  verbosity : Nat
  /-- The destination of the report. It is missing after an option that names none. -/
  destination : Option Destination
  deriving DecidableEq

/-- The choices while options are carried out. There is no format after an option that names
none. -/
structure Draft where
  format : Option Report.Format
  choices : Choices
  deriving DecidableEq

/-- The settings of a run that checks a version-string. -/
structure Settings where
  operands : Operands
  format : Report.Format
  choices : Choices
  deriving DecidableEq

/-- Why a command line does not lead to a check. -/
inductive Refusal where
  | help
  | version
  | usage (error : UsageError)
  /-- The last option for the format names none. How much of the log to show is known by then. -/
  | unnamedFormat (verbosity : Nat)
  deriving DecidableEq

/-- What a run can read. -/
structure Inputs where
  standardInput : Contents
  /-- Opens the file at a path and gives what can be read from it. -/
  read : Text → Except FileError Contents

/-- The path that stands for the standard input among the release files. -/
def Source.standardInputPath : Text := ['-']

/-- Opens a source of releases. -/
def Source.ofPath (inputs : Inputs) (path : Text) : Except Refusal Source :=
  if path == standardInputPath then .ok (.standardInput inputs.standardInput)
  else match inputs.read path with
    | .ok contents => .ok (.file path contents)
    | .error error => .error (.usage (.unreadable path error))

/-- The choices of a command line without options. -/
def Choices.standard : Choices where
  sources := []
  select := false
  validate := true
  verbosity := 0
  destination := some .standardOutput

/-- The choices with one more source. -/
def Choices.addSource (choices : Choices) (source : Option Source) : Choices :=
  { choices with sources := choices.sources ++ [source] }

namespace Draft

/-- The draft for a command line without options. -/
def standard : Draft :=
  ⟨some .columns, .standard⟩

/-- The draft after a flag. -/
def raise (draft : Draft) : Flag → Except Refusal Draft
  | .help => .error .help
  | .version => .error .version
  | .select => .ok { draft with choices.select := true }
  | .noValidate => .ok { draft with choices.validate := false }
  | .verbose => .ok { draft with choices.verbosity := draft.choices.verbosity + 1 }

/-- The draft after an option with a value. -/
def set (inputs : Inputs) (draft : Draft) : Parameter → Text → Except Refusal Draft
  | .output, path => .ok { draft with choices.destination := some (.ofPath path) }
  | .format, name =>
    match Report.Format.ofName? name with
    | some format => .ok { draft with format := some format }
    | none => .error (.usage (.unknownFormat name))
  | .releaseFile, path =>
    (Source.ofPath inputs path).map fun source =>
      { draft with choices := draft.choices.addSource (some source) }

/-- The draft after an option whose value is missing. -/
def leaveUnnamed (draft : Draft) : Parameter → Draft
  | .output => { draft with choices.destination := none }
  | .format => { draft with format := none }
  | .releaseFile => { draft with choices := draft.choices.addSource none }

/-- Carries out an action. -/
def apply (inputs : Inputs) (draft : Draft) : Action → Except Refusal Draft
  | .raise flag => draft.raise flag
  | .set parameter (some value) => draft.set inputs parameter value
  | .set parameter none => .ok (draft.leaveUnnamed parameter)

end Draft

namespace Settings

/-- The settings that a plan leads to. What fails first on the way from left to right counts, then
missing operands, then arguments without a use, then a format without a name. -/
def ofPlan (inputs : Inputs) (plan : Plan) : Except Refusal Settings :=
  match plan.actions.foldlM (Draft.apply inputs) Draft.standard with
  | .error refusal => .error refusal
  | .ok draft =>
    match plan.error, plan.operands, draft.format with
    | some error, _, _ => .error (.usage error)
    | none, none, _ => .error (.usage .missingOperands)
    | none, some operands, format =>
      if !plan.leftover.isEmpty then .error (.usage (.unrecognized plan.leftover))
      else match format with
        | some format => .ok ⟨operands, format, draft.choices⟩
        | none => .error (.unnamedFormat draft.choices.verbosity)

/-- The settings that the arguments of a command line lead to. -/
def ofArguments (inputs : Inputs) (arguments : List Text) : Except Refusal Settings :=
  ofPlan inputs (.ofArguments arguments)

end Settings

end VersionMatch.CommandLine
