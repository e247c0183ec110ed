import VersionMatch.Session.Check

/-!
# Runs of the program

A run looks at the log level, understands its arguments, and then checks releases or answers a
request for help or the version. `Run.changes` says which files of a disk a run leaves new or with
other contents.
-/

namespace VersionMatch.Session

open CommandLine (Refusal Settings)
open Log (Level)

/-- The version of the program. -/
def programVersion : Text := "1.0.0".toList

/-- The answer to a request for the version. -/
def versionText : Text :=
  "jsr56 ".toList ++ programVersion

namespace Run

/-- The run that prints an answer. -/
def ofAnswer (level : Level) (answer : Text) : Run :=
  ⟨level, [.write .standardOutput (answer ++ ['\n'])], .exit 0⟩

/-- The level from which on notes are shown, given the level set from outside. -/
def thresholdFor (verbosity : Nat) (level : Level) : Level :=
  if verbosity = 0 then level else .debug

/-- The run of arguments that were understood. It takes a note of them first. -/
def ofUnderstood (world : World) (level : Level) (arguments : List Text) (verbosity : Nat)
    (rest : List Event × Ending) : Run :=
  ⟨thresholdFor verbosity level,
    .note (.understood (world.wording.describe arguments)) :: rest.1, rest.2⟩

/-- The run of a command line that does not lead to a check. -/
def ofRefusal (world : World) (level : Level) (arguments : List Text) : Refusal → Run
  | .help => ofAnswer level world.wording.help
  | .version => ofAnswer level versionText
  | .usage error => ⟨level, (usageError world error).1, (usageError world error).2⟩
  | .unnamedFormat verbosity =>
    ofUnderstood world level arguments verbosity ([], .fault (.missingValue .format))

/-- The run of a check. -/
def ofSettings (world : World) (level : Level) (arguments : List Text) (settings : Settings) :
    Run :=
  ofUnderstood world level arguments settings.choices.verbosity (check world settings)

/-- The run of the program with the given arguments. -/
def ofArguments (world : World) (arguments : List Text) : Run :=
  match Level.ofSetting world.logLevel with
  | .error name => ⟨.warning, [], .fault (.unknownLevel name)⟩
  | .ok level =>
    match Settings.ofArguments world.inputs arguments with
    | .error refusal => ofRefusal world level arguments refusal
    | .ok settings => ofSettings world level arguments settings

/-- The disk after a run. -/
def diskAfter (run : Run) (disk : Disk) : Disk :=
  run.files.foldl (fun disk file => disk.write file.1 file.2) disk

/-- The files that are new after a run or have other contents. -/
def changes (run : Run) (disk : Disk) : List (Location × Text) :=
  disk.changes (run.diskAfter disk)

end Run

end VersionMatch.Session
