import VersionMatch.Text.UpperCase

/-!
# Levels of the log

Every note in the log has a level, and a run shows the notes from a certain level on. The level is
set by name, in any case of letters.
-/

namespace VersionMatch.Log

/-- How serious a note is. -/
inductive Level where
  | debug
  | info
  | warning
  | error
  | critical
  deriving DecidableEq

namespace Level

/-- The rank of a level: a greater one is more serious. -/
def severity : Level → Nat
  | .debug => 10
  | .info => 20
  | .warning => 30
  | .error => 40
  | .critical => 50

/-- The name that a note shows for its level. -/
def name : Level → Text
  | .debug => "DEBUG".toList
  | .info => "INFO".toList
  | .warning => "WARNING".toList
  | .error => "ERROR".toList
  | .critical => "CRITICAL".toList

/-- The names by which a level can be set. `NOTSET` leaves the choice to the surroundings, which
show warnings. -/
def names : List (Text × Level) :=
  [("CRITICAL".toList, .critical), ("FATAL".toList, .critical), ("ERROR".toList, .error),
    ("WARNING".toList, .warning), ("WARN".toList, .warning), ("INFO".toList, .info),
    ("DEBUG".toList, .debug), ("NOTSET".toList, .warning)]

/-- The level that a setting asks for, or the name that is none. Without a setting it is `info`. -/
def ofSetting (setting : Option Text) : Except Text Level :=
  match setting with
  | none => .ok .info
  | some text =>
    match names.lookup (Text.upper text) with
    | some level => .ok level
    | none => .error (Text.upper text)

/-- Whether a run that shows notes from level `threshold` on shows one of this level. -/
def isShown (threshold level : Level) : Bool :=
  threshold.severity ≤ level.severity

end Level

end VersionMatch.Log
