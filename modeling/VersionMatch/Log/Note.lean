import VersionMatch.Error
import VersionMatch.Log.Level

/-!
# Notes in the log

What a run has to say about its progress. A note has a level, the part of the program that it comes
from, and a wording.
-/

namespace VersionMatch.Log

/-- Something worth a note in the log. -/
inductive Note where
  /-- The arguments of the command line were understood; what they come to is described. -/
  | understood (description : Text)
  /-- A version-string was parsed and has this many elements. -/
  | parsed (versionString : Text) (elements : Nat)
  /-- The version-string is not valid. -/
  | invalid (error : Error)
  /-- The version-string is used without a check. -/
  | unchecked
  /-- A simple-element turned a release down. -/
  | rejected (release simple : Text)
  /-- A release was checked; the element that accepted it, if any. -/
  | checked (release : Text) (element : Option Text)
  /-- The release that was selected for a version-string, if any. -/
  | selected (release : Option Text) (versionString : Text)
  deriving DecidableEq

namespace Note

/-- The level of a note. -/
def level : Note → Level
  | .understood _ | .parsed .. | .rejected .. | .checked .. | .selected .. => .debug
  | .invalid _ => .error
  | .unchecked => .warning

/-- The part of the program that a note comes from. -/
def source : Note → Text
  | .parsed .. => "jsr56._grammar".toList
  | .rejected .. | .selected .. => "jsr56._release".toList
  | .understood _ | .invalid _ | .unchecked | .checked .. => "jsr56._cli".toList

/-- The wording of a note. -/
def message : Note → Text
  | .understood description => "parsed arguments: ".toList ++ description
  | .parsed versionString elements =>
    "parsed ".toList ++ Text.quoted versionString ++ " into ".toList ++ Text.ofNat elements ++
      " element(s)".toList
  | .invalid error => error.message
  | .unchecked => "Not validating the version string; results may be meaningless".toList
  | .rejected release simple =>
    Text.quoted release ++ " rejected by simple-element ".toList ++ Text.quoted simple
  | .checked release element =>
    "Checked ".toList ++ release ++ ": matched element ".toList ++ Text.quotedOption element
  | .selected release versionString =>
    "selected ".toList ++ Text.quotedOption release ++ " for ".toList ++ Text.quoted versionString

/-- The line of a note in the log. -/
def line (note : Note) : Text :=
  Text.join [':'] [note.level.name, note.source, note.message]

end Note

end VersionMatch.Log
