import VersionMatch.CommandLine.Switch
import VersionMatch.File

/-!
# Usage errors

The ways in which a command line can be wrong, and how each of them is worded.
-/

namespace VersionMatch.CommandLine

/-- What is wrong with a command line. -/
inductive UsageError where
  /-- An argument abbreviates several options. -/
  | ambiguous (argument : Text) (spellings : List Text)
  /-- An option stands without its value. -/
  | missingValue (parameter : Parameter)
  /-- A flag is given a value. -/
  | ignoredValue (flag : Flag) (value : Text)
  /-- No report format has this name. -/
  | unknownFormat (name : Text)
  /-- A release file cannot be opened. -/
  | unreadable (path : Text) (error : FileError)
  /-- There is no version-string. -/
  | missingOperands
  /-- Some arguments have no use. -/
  | unrecognized (arguments : List Text)
  /-- The check of the version-string is switched off, and nothing else is left to do. -/
  | nothingToCheck
  deriving DecidableEq

namespace UsageError

/-- A complaint about an option. -/
def about (switch : Switch) (complaint : Text) : Text :=
  "argument ".toList ++ switch.label ++ ": ".toList ++ complaint

/-- The wording of a usage error. -/
def message : UsageError → Text
  | .ambiguous argument spellings =>
    "ambiguous option: ".toList ++ argument ++ " could match ".toList ++
      Text.join ", ".toList spellings
  | .missingValue parameter => about (.parameter parameter) "expected one argument".toList
  | .ignoredValue flag value =>
    about (.flag flag) ("ignored explicit argument ".toList ++ Text.quoted value)
  | .unknownFormat name =>
    about (.parameter .format) ("invalid OutputFormatChoice value: ".toList ++ Text.quoted name)
  | .unreadable path .nullCharacter =>
    about (.parameter .releaseFile) ("invalid FileType('r') value: ".toList ++ Text.quoted path)
  | .unreadable path error =>
    about (.parameter .releaseFile)
      ("can't open '".toList ++ path ++ "': ".toList ++ error.message path)
  | .missingOperands => "the following arguments are required: VERSION_STRING, RELEASE".toList
  | .unrecognized arguments =>
    "unrecognized arguments: ".toList ++ Text.join [' '] arguments
  | .nothingToCheck => "The --no-validate flag requires at least one release to check".toList

end UsageError

end VersionMatch.CommandLine
