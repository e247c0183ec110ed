import VersionMatch.Disk
import VersionMatch.Session.Event

/-!
# The world of a run

What a run meets outside of the program is a parameter of the run: what it can read, how the log is
set, what becomes of a text that it writes, and some texts that depend on how the program is set up.
A world without surprises is that of a disk on which there is always space.
-/

namespace VersionMatch.Session

open CommandLine (Destination Inputs)

/-- What becomes of a text that is written to an open destination. -/
inductive Delivery where
  | whole
  /-- Writing fails, and only this text arrives. -/
  | broken (arrived : Text) (error : WriteError)
  deriving DecidableEq

/-- Texts that show how the program is set up. None has a line feed at its end. -/
structure Wording where
  /-- The usage of the program, which stands above the message of a usage error. -/
  usage : Text
  /-- The answer to a request for help. -/
  help : Text
  /-- How the log describes arguments that were understood. -/
  describe : List Text → Text

/-- Texts that show nothing. -/
def Wording.blank : Wording :=
  ⟨[], [], fun _ => []⟩

/-- What the world outside of a run offers to it. -/
structure World where
  inputs : Inputs
  /-- The level at which the log is set from outside, if it is set. -/
  logLevel : Option Text
  /-- Opens the file at a path for writing, which creates or empties it. -/
  create : Text → Except FileError Unit
  /-- Writes a text to an open destination. A failure shows at once, and not only when the run has
  come to its end. -/
  put : Destination → Text → Delivery
  wording : Wording

/-! ## Encodings -/

/-- A way to write characters as bytes. -/
structure Encoding where
  name : Text
  /-- Whether a character can be encoded. -/
  holds : Char → Bool
  /-- What is wrong with the other characters. -/
  reason : Text

namespace Encoding

/-- The encoding of the first 128 characters. -/
def ascii : Encoding :=
  ⟨"ascii".toList, fun c => c.toNat < 128, "ordinal not in range(128)".toList⟩

/-- The encoding of all characters. -/
def utf8 : Encoding :=
  ⟨"utf-8".toList, fun _ => true, []⟩

/-- The complaint about the first characters of a text that cannot be encoded: about one by its
code, about several in a row by their positions. -/
def complaint? (encoding : Encoding) (text : Text) : Option Text :=
  let start := (text.takeWhile encoding.holds).length
  let bad := (text.drop start).takeWhile fun c => !encoding.holds c
  let subject : Option Text :=
    match bad with
    | [] => none
    | [c] => some (" character '".toList ++ Text.codeEscape c ++ "' in position ".toList ++
        Text.ofNat start)
    | _ => some (" characters in position ".toList ++ Text.ofNat start ++ ['-'] ++
        Text.ofNat (start + bad.length - 1))
  subject.map fun subject =>
    ['\''] ++ encoding.name ++ "' codec can't encode".toList ++ subject ++ ": ".toList ++
      encoding.reason

/-- What becomes of a text if nothing but its encoding can fail. The text is encoded as a whole
before any of it is stored. -/
def put (encoding : Encoding) (text : Text) : Delivery :=
  match encoding.complaint? text with
  | none => .whole
  | some complaint => .broken [] (.unencodable complaint)

end Encoding

/-- The world of a run that works on a disk with enough space, in an encoding. -/
def World.ofDisk (disk : Disk) (encoding : Encoding) (standardInput : Text)
    (logLevel : Option Text) : World where
  inputs := ⟨.decoded standardInput, fun path => (disk.read path).map .decoded⟩
  logLevel := logLevel
  create path := (disk.target path).map fun _ => ()
  put _ := encoding.put
  wording := .blank

/-- A world with a device besides, which can be opened for writing and has no space. -/
def World.addFullDevice (world : World) (device : Text) : World :=
  { world with
    create := fun path => if path = device then .ok () else world.create path
    put := fun destination text =>
      match world.put destination text with
      | .whole => if destination = .file device then .broken [] .noSpace else .whole
      | .broken arrived error => .broken arrived error }

end VersionMatch.Session
