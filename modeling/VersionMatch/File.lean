import VersionMatch.Text.Quoted
import VersionMatch.Text.Span

/-!
# Files

A file is named by its path, a text with slashes between its parts. The normal form of a path leaves
out empty parts and parts that are a single dot. It keeps double dots, and it keeps a leading slash,
which is written once unless there are exactly two.

Opening a file can fail, and so can writing to it afterwards; each of the errors has its wording.
-/

namespace VersionMatch

namespace Path

/-- The texts between the slashes of a path. -/
def parts (path : Text) : List Text :=
  Text.spans (· == '/') path

/-- Whether a part of a path leads anywhere. -/
def isStep (part : Text) : Bool :=
  !part.isEmpty && part != ['.']

/-- The leading slashes of the normal form. -/
def root (path : Text) : Text :=
  match (path.takeWhile (· == '/')).length with
  | 0 => []
  | 2 => ['/', '/']
  | _ => ['/']

/-- The normal form of a path. The path without any part is the dot. -/
def normalise (path : Text) : Text :=
  let normal := root path ++ Text.join ['/'] ((parts path).filter isStep)
  if normal.isEmpty then ['.'] else normal

end Path

/-- An error of the system, with its number. -/
def numberedError (number : Nat) (words : Text) : Text :=
  "[Errno ".toList ++ Text.ofNat number ++ "] ".toList ++ words

/-- Why a file cannot be opened. -/
inductive FileError where
  | notFound
  | permissionDenied
  | notADirectory
  | isADirectory
  | nameTooLong
  /-- A path must not hold the null character. -/
  | nullCharacter
  deriving DecidableEq

namespace FileError

/-- The number of an error and the words for it. A path that no file can have has no number. -/
def description : FileError → Option (Nat × String)
  | .notFound => some (2, "No such file or directory")
  | .permissionDenied => some (13, "Permission denied")
  | .notADirectory => some (20, "Not a directory")
  | .isADirectory => some (21, "Is a directory")
  | .nameTooLong => some (36, "File name too long")
  | .nullCharacter => none

/-- The wording of the error for a path. -/
def message (error : FileError) (path : Text) : Text :=
  match error.description with
  | some (number, words) =>
    numberedError number words.toList ++ ": ".toList ++ Text.quoted path
  | none => "embedded null byte".toList

end FileError

/-- Why a text does not arrive as a whole where it is written. -/
inductive WriteError where
  /-- The text holds a character that cannot be encoded; the complaint says which one. -/
  | unencodable (complaint : Text)
  /-- The system fails to store the text. -/
  | system (number : Nat) (words : Text)
  deriving DecidableEq

namespace WriteError

/-- The error of a device without space for more. -/
def noSpace : WriteError :=
  .system 28 "No space left on device".toList

/-- The wording of the error. -/
def message : WriteError → Text
  | .unencodable complaint => complaint
  | .system number words => numberedError number words

end WriteError

end VersionMatch
