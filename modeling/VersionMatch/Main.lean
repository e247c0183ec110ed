import VersionMatch.Session.Run

/-!
# The program

Reads the release files that the command line names, works out the run, and carries out its events.
Whether a file can be opened for writing, and how much of a text arrives, only shows then.
-/

namespace VersionMatch.Main

open CommandLine (Contents Inputs Plan Source)
open Session (Event Fault Run Wording World)

/-- The reason for which the system could not open a file. -/
def fileErrorOf : IO.Error → FileError
  | .permissionDenied .. => .permissionDenied
  | .inappropriateType .. => .isADirectory
  | .invalidArgument .. => .nameTooLong
  | _ => .notFound

/-- The reason for which the system could not store a text. -/
def writeErrorOf (error : IO.Error) : WriteError :=
  match error with
  | .resourceExhausted _ number details => .system number.toNat details.toList
  | _ => .system 5 error.toString.toList

/-- What can be read from a file, or the reason for which it cannot be opened. -/
def readContents (path : Text) : IO (Except FileError Contents) := do
  try
    let bytes ← IO.FS.readBinFile (String.ofList path)
    return .ok <| match String.fromUTF8? bytes with
      | some contents => .decoded contents.toList
      | none => .undecodable "the file is not encoded in UTF-8".toList
  catch error =>
    return .error (fileErrorOf error)

/-- The inputs of a run: the release files that its command line names, and the standard input if it
is one of them. -/
def readInputs (arguments : List Text) : IO Inputs := do
  let paths := (Plan.ofArguments arguments).releaseFiles
  let files ← (paths.filter (· != Source.standardInputPath)).mapM fun path => do
    return (path, ← readContents path)
  let input ←
    if paths.contains Source.standardInputPath then (← IO.getStdin).readToEnd else pure ""
  return ⟨.decoded input.toList, fun path => (files.lookup path).getD (.error .notFound)⟩

/-- The usage of the program, in lines of eighty characters. -/
def usageLines : List String :=
  ["usage: jsr56 [-h] [-V] [-r FILE] [-f FORMAT] [--select] [--no-validate] [-v]",
    "             [-o FILE]",
    "             VERSION_STRING [RELEASE ...]"]

/-- The answer to a request for help below the usage. -/
def helpLines : List String :=
  ["",
    "check releases against a JSR 56 version string",
    "",
    "positional arguments:",
    "  VERSION_STRING        the version string to check releases against, e.g.",
    "                        '1.6+ 1.8*'",
    "  RELEASE               a release to check; if no releases are given, only",
    "                        validate the version string (default: None)",
    "",
    "options:",
    "  -h, --help            show this help message and exit",
    "  -V, --version         show program's version number and exit",
    "  -r FILE, --release-file FILE",
    "                        check the releases listed in the given file, one per",
    "                        line; this option can be used multiple times (default:",
    "                        [])",
    "  -f FORMAT, --format FORMAT",
    "                        the format to emit match results in (choices: columns,",
    "                        json, markdown) (default: columns)",
    "  --select              also report the newest acceptable release (default:",
    "                        False)",
    "  --no-validate         check releases without first validating the version",
    "                        string; malformed version strings still produce a",
    "                        result, but it may be meaningless (default: False)",
    "  -v, --verbose         run with additional debug logging; supply multiple",
    "                        times to increase verbosity (default: 0)",
    "  -o FILE, --output FILE",
    "                        output results to the given file (default: stdout)"]

/-- The texts of this program. -/
def wording : Wording where
  usage := Text.join ['\n'] (usageLines.map String.toList)
  help := Text.join ['\n'] ((usageLines ++ helpLines).map String.toList)
  describe := Text.join [' ']

/-- Creates or empties a file, unless it cannot be opened. -/
def createFile (path : Text) : IO (Option Fault) := do
  try
    IO.FS.writeFile (String.ofList path) ""
    return none
  catch error =>
    return some (.unwritable path (fileErrorOf error))

/-- Fills a file, unless the system fails to store the text. -/
def fillFile (path contents : Text) : IO (Option Fault) := do
  try
    IO.FS.writeFile (String.ofList path) (String.ofList contents)
    return none
  catch error =>
    return some (.unwritten (.file path) (writeErrorOf error))

/-- Carries out an event. -/
def perform (threshold : Log.Level) (event : Event) : IO (Option Fault) := do
  IO.eprint (String.ofList (event.onStandardError threshold))
  IO.print (String.ofList event.onStandardOutput)
  match event with
  | .create path => createFile path
  | .write (.file path) text => fillFile path text
  | .write .standardOutput _ | .read _ | .note _ | .say _ => return none

/-- Reports a fault and gives the status that goes with it. -/
def report (fault : Fault) : IO UInt32 := do
  IO.eprintln (String.ofList fault.message)
  return 1

/-- Carries out a run and gives its status. -/
def carryOut (run : Run) : IO UInt32 := do
  for event in run.events do
    if let some fault ← perform run.threshold event then
      return ← report fault
  match run.ending with
  | .exit status => return status.toUInt32
  | .fault fault => report fault

end VersionMatch.Main

def main (arguments : List String) : IO UInt32 := do
  let arguments := arguments.map String.toList
  let inputs ← VersionMatch.Main.readInputs arguments
  let logLevel := (← IO.getEnv "JSR56_LOGLEVEL").map String.toList
  let world : VersionMatch.Session.World :=
    ⟨inputs, logLevel, fun _ => .ok (), fun _ _ => .whole, VersionMatch.Main.wording⟩
  VersionMatch.Main.carryOut (VersionMatch.Session.Run.ofArguments world arguments)
