import VersionMatch.CommandLine.Settings
import VersionMatch.Log.Note

/-!
# What a run does

A run is described by the list of its events and by how it ends. The events hold every note,
whatever level is shown. What appears on the standard error, on the standard output and in files is
read off the events. A run that ends with a fault leaves it to its surroundings to report the fault.
-/

namespace VersionMatch.Session

open CommandLine (Destination Parameter Source)
open Log (Level Note)

/-- One thing that a run does. -/
inductive Event where
  /-- The releases of a source were read, to its end. -/
  | read (source : Source)
  /-- A note was offered to the log. -/
  | note (note : Note)
  /-- A line was printed on the standard error. -/
  | say (line : Text)
  /-- The file at a path was opened for writing, which creates or empties it. -/
  | create (path : Text)
  /-- A text arrived at a destination. -/
  | write (destination : Destination) (text : Text)
  deriving DecidableEq

/-- A failure that no message of the program answers. -/
inductive Fault where
  /-- The log level is set to something else than a level. -/
  | unknownLevel (name : Text)
  /-- The standard input was to be read again after its end. -/
  | inputClosed
  /-- What a source holds is no text. -/
  | undecodable (complaint : Text)
  /-- The destination of the report cannot be opened. -/
  | unwritable (path : Text) (error : FileError)
  /-- The report does not arrive as a whole at its destination, which was opened. -/
  | unwritten (destination : Destination) (error : WriteError)
  /-- The value of an option is missing where it is needed. -/
  | missingValue (parameter : Parameter)
  deriving DecidableEq

/-- The wording of a fault. -/
def Fault.message : Fault → Text
  | .unknownLevel name => "Unknown level: ".toList ++ Text.quoted name
  | .inputClosed => "I/O operation on closed file.".toList
  | .undecodable complaint => complaint
  | .unwritable path error => error.message path
  | .unwritten _ error => error.message
  | .missingValue .format => "'list' object has no attribute 'to_format'".toList
  | .missingValue .output => "'list' object has no attribute 'open'".toList
  | .missingValue .releaseFile =>
    "'list' object does not support the context manager protocol".toList

/-- How a run ends. -/
inductive Ending where
  | exit (status : Nat)
  | fault (fault : Fault)
  deriving DecidableEq

/-- A run: the level from which on notes are shown, the events in order, and the ending. -/
structure Run where
  threshold : Level
  events : List Event
  ending : Ending
  deriving DecidableEq

namespace Event

/-- What an event puts on the standard error. -/
def onStandardError (threshold : Level) : Event → Text
  | .note entry => if threshold.isShown entry.level then entry.line ++ ['\n'] else []
  | .say line => line ++ ['\n']
  | .read _ | .create _ | .write .. => []

/-- What an event puts on the standard output. -/
def onStandardOutput : Event → Text
  | .write .standardOutput text => text
  | .write (.file _) _ | .read _ | .note _ | .say _ | .create _ => []

/-- The path of the file that an event creates or empties, if it does. -/
def created? : Event → Option Text
  | .create path => some path
  | .write .. | .read _ | .note _ | .say _ => none

/-- What an event puts into the file at a path. -/
def onFile (path : Text) : Event → Text
  | .write (.file named) text => if named = path then text else []
  | .write .standardOutput _ | .read _ | .note _ | .say _ | .create _ => []

end Event

namespace Run

/-- The standard error of a run, up to the report of a fault. -/
def standardError (run : Run) : Text :=
  run.events.flatMap (Event.onStandardError run.threshold)

/-- The standard output of a run. -/
def standardOutput (run : Run) : Text :=
  run.events.flatMap Event.onStandardOutput

/-- The files that a run creates or empties, with what it then puts into them. -/
def files (run : Run) : List (Text × Text) :=
  (run.events.filterMap Event.created?).map fun path =>
    (path, run.events.flatMap (Event.onFile path))

end Run

end VersionMatch.Session
