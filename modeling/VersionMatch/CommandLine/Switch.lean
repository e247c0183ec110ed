import VersionMatch.Text.Basic

/-!
# Options of the command line

An option is either a flag or takes a value. Most options have a short spelling of one letter after
a dash and all have a long one after two dashes.
-/

namespace VersionMatch.CommandLine

/-- An option without a value. -/
inductive Flag where
  | help
  | version
  | select
  | noValidate
  | verbose
  deriving DecidableEq

/-- An option with a value. -/
inductive Parameter where
  | releaseFile
  | format
  | output
  deriving DecidableEq

/-- An option of the command line. -/
inductive Switch where
  | flag (flag : Flag)
  | parameter (parameter : Parameter)
  deriving DecidableEq

namespace Switch

/-- The spellings of the options, in the order in which they are listed. -/
def spellings : List (Text × Switch) :=
  [("-h".toList, .flag .help), ("--help".toList, .flag .help),
    ("-V".toList, .flag .version), ("--version".toList, .flag .version),
    ("-r".toList, .parameter .releaseFile), ("--release-file".toList, .parameter .releaseFile),
    ("-f".toList, .parameter .format), ("--format".toList, .parameter .format),
    ("--select".toList, .flag .select),
    ("--no-validate".toList, .flag .noValidate),
    ("-v".toList, .flag .verbose), ("--verbose".toList, .flag .verbose),
    ("-o".toList, .parameter .output), ("--output".toList, .parameter .output)]

/-- The option of a spelling. -/
def ofSpelling? (text : Text) : Option Switch :=
  spellings.lookup text

/-- The name of an option in messages: all of its spellings. -/
def label (switch : Switch) : Text :=
  Text.join ['/'] ((spellings.filter fun entry => entry.2 == switch).map (·.1))

end Switch

end VersionMatch.CommandLine
