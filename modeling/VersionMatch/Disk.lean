import VersionMatch.File

/-!
# Files on a disk

A disk holds files, and the program runs in one of its directories. There is a directory wherever a
file, or the directory of the program, lies deeper. A path is followed part by part, from the root
if it begins with a slash and else from the directory of the program. A part can only be looked up
in a directory, and a double dot leads to the directory above.
-/

namespace VersionMatch

/-- Where a file or a directory is: the names that lead to it from the root. -/
abbrev Location := List Text

/-- Files with their contents, and the directory in which the program runs. -/
structure Disk where
  home : Location
  files : List (Location × Text)

/-- What stands at the end of a path. -/
inductive Place where
  | directory (location : Location)
  | file (location : Location) (contents : Text)
  /-- A name that a directory does not hold. -/
  | vacant (location : Location)

namespace Disk

/-- The disk with a directory that holds files at the given paths. -/
def ofFiles (files : List (Text × Text)) : Disk where
  home := ["work".toList]
  files := files.map fun file => ("work".toList :: (Path.parts file.1).filter Path.isStep, file.2)

/-- The contents of the file at a location. -/
def lookup (disk : Disk) (location : Location) : Option Text :=
  disk.files.lookup location

/-- Whether a location is that of a directory. -/
def isDirectory (disk : Disk) (location : Location) : Bool :=
  location.isPrefixOf disk.home ||
    disk.files.any fun file => location.isPrefixOf file.1 && location != file.1

/-- The size in bytes that a name may have. -/
def maxNameSize : Nat := 255

/-- The size in bytes that a path may have. -/
def maxPathSize : Nat := 4095

/-- The size of a text in bytes. -/
def size (text : Text) : Nat :=
  (String.ofList text).utf8ByteSize

/-- What a directory holds under a name. -/
def child (disk : Disk) (location : Location) (name : Text) : Place :=
  match disk.lookup (location ++ [name]) with
  | some contents => .file (location ++ [name]) contents
  | none =>
    if disk.isDirectory (location ++ [name]) then .directory (location ++ [name])
    else .vacant (location ++ [name])

/-- Follows one part of a path. The root is the directory above itself. -/
def follow (disk : Disk) (place : Place) (part : Text) : Except FileError Place :=
  match place with
  | .file .. => .error .notADirectory
  | .vacant _ => .error .notFound
  | .directory location =>
    if !Path.isStep part then .ok (.directory location)
    else if part == ['.', '.'] then .ok (.directory location.dropLast)
    else if maxNameSize < size part then .error .nameTooLong
    else .ok (disk.child location part)

/-- Follows a path to its end. -/
def resolve (disk : Disk) (path : Text) : Except FileError Place :=
  if path.contains '\x00' then .error .nullCharacter
  else if path.isEmpty then .error .notFound
  else if maxPathSize < size path then .error .nameTooLong
  else
    (Path.parts path).foldlM disk.follow
      (.directory (if path.head? == some '/' then [] else disk.home))

/-- Opens the file at a path for reading and gives its contents. -/
def read (disk : Disk) (path : Text) : Except FileError Text :=
  match disk.resolve path with
  | .error error => .error error
  | .ok (.file _ contents) => .ok contents
  | .ok (.vacant _) => .error .notFound
  | .ok (.directory _) => .error .isADirectory

/-- Opens the file at a path for writing and gives its location. -/
def target (disk : Disk) (path : Text) : Except FileError Location :=
  match disk.resolve path with
  | .error error => .error error
  | .ok (.file location _) | .ok (.vacant location) => .ok location
  | .ok (.directory _) => .error .isADirectory

/-- The disk with other contents at a location. -/
def store (disk : Disk) (location : Location) (contents : Text) : Disk :=
  { disk with
    files := disk.files.filter (fun file => file.1 != location) ++ [(location, contents)] }

/-- The disk after writing to a path; a path that cannot be opened leaves it as it is. -/
def write (disk : Disk) (path contents : Text) : Disk :=
  match disk.target path with
  | .ok location => disk.store location contents
  | .error _ => disk

/-- The files of a later disk that are new or have other contents. -/
def changes (earlier later : Disk) : List (Location × Text) :=
  later.files.filter fun file => earlier.lookup file.1 != later.lookup file.1

end Disk

end VersionMatch
