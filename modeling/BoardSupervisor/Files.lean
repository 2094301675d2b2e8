/-!
# Files

A path is a text with slashes between the parts. A name is looked up in a directory by joining the
two paths, where a name that begins with a slash stands by itself. A short name has one to eight
characters, and may go on with a point and up to three more.

A tree holds files at places below a root. A place is a directory when it is the working directory,
a directory on the way to it, or a directory on the way to a file. A path is walked part by part
from the root or from the working directory; the walk fails at the first part that cannot be
entered. The causes for which a file cannot be read have the system's own numbers and wording.
-/

namespace BoardSupervisor

/-- Why a file cannot be read. -/
inductive ReadFault where
  /-- Nothing has that name. -/
  | notFound
  /-- Something that is used as a directory is a file. -/
  | notDirectory
  /-- The name is that of a directory. -/
  | isDirectory
  /-- The name, or one part of it, is longer than the disk allows. -/
  | nameTooLong
  /-- The name contains a zero character. -/
  | zeroInName
  /-- Any other cause, in the disk's own words. -/
  | other (description : String)
  deriving DecidableEq, Repr

/-- A cause in words. -/
def ReadFault.message : ReadFault → String
  | .notFound => "No such file or directory (os error 2)"
  | .notDirectory => "Not a directory (os error 20)"
  | .isDirectory => "Is a directory (os error 21)"
  | .nameTooLong => "File name too long (os error 36)"
  | .zeroInName => "file name contained an unexpected NUL byte"
  | .other description => description

namespace Path

/-- A path that begins with a slash starts from the root. -/
def isAbsolute (path : String) : Bool := path.toList.head? == some '/'

/-- A name as it is looked up in a directory. -/
def join (directory name : String) : String :=
  if isAbsolute name || directory.isEmpty then name
  else if directory.toList.getLast? == some '/' then directory ++ name
  else directory ++ "/" ++ name

/-- The parts of a path between its slashes, empty ones included. -/
def pieces (path : String) : List String :=
  (path.toList.splitOnP (· == '/')).map String.ofList

/-- The most bytes of a path. -/
def maxBytes : Nat := 4095

/-- The most bytes of one part of a path. -/
def maxPieceBytes : Nat := 255

/-- What is wrong with a path before anything is looked up. -/
def fault? (path : String) : Option ReadFault :=
  if path.toList.contains '\x00' then some .zeroInName
  else if path.isEmpty then some .notFound
  else if path.utf8ByteSize > maxBytes then some .nameTooLong
  else none

end Path

namespace ShortName

/-- The characters of a short name. -/
def isAllowed (c : Char) : Bool := '!' ≤ c && c ≤ '~' && c != '.'

/-- A text before its first point, and the text after it. -/
def split (name : List Char) : List Char × List Char :=
  (name.takeWhile (· != '.'), (name.dropWhile (· != '.')).drop 1)

/-- Whether a name is a short name. -/
def isShort (name : String) : Bool :=
  let (stem, tail) := split name.toList
  1 ≤ stem.length && stem.length ≤ 8 && tail.length ≤ 3 && stem.all isAllowed && tail.all isAllowed

end ShortName

/-- A disk answers a path with the bytes of a file or with the reason why there are none. -/
abbrev Disk := String → Except ReadFault (Array UInt8)

/-- A disk that gives known answers to some paths and has no other files. -/
def Disk.ofAnswers (answers : List (String × Except ReadFault (Array UInt8))) : Disk := fun path =>
  match answers.lookup path with
  | some answer => answer
  | none => .error .notFound

/-- Where something lies: the parts of its path from the root. -/
abbrev Place := List String

/-- Files below a root, and the directory that other paths start from. -/
structure FileTree where
  /-- The working directory. -/
  workingDirectory : Place
  /-- The files, the most recently written first. -/
  files : List (Place × Array UInt8)

/-- What lies at a place. -/
inductive Entry where
  /-- A directory. -/
  | directory
  /-- A file with its bytes. -/
  | file (bytes : Array UInt8)

namespace FileTree

/-- A tree without files. -/
def empty (workingDirectory : Place) : FileTree := ⟨workingDirectory, []⟩

/-- Whether a place is a directory. -/
def isDirectory (tree : FileTree) (place : Place) : Bool :=
  place.isPrefixOf tree.workingDirectory ||
    tree.files.any fun (path, _) => place.isPrefixOf path && path != place

/-- What lies at a place, if anything does. -/
def entry? (tree : FileTree) (place : Place) : Option Entry :=
  if tree.isDirectory place then some .directory
  else (tree.files.find? fun (path, _) => path == place).map fun (_, bytes) => .file bytes

/-- One step of a walk from a place to the part of the given name. -/
def step (tree : FileTree) (place : Place) (part : String) : Except ReadFault Place :=
  match tree.entry? place with
  | none => .error .notFound
  | some (.file _) => .error .notDirectory
  | some .directory =>
    if part = "" ∨ part = "." then .ok place
    else if part = ".." then .ok place.dropLast
    else if part.utf8ByteSize > Path.maxPieceBytes then .error .nameTooLong
    else if (tree.entry? (place ++ [part])).isSome then .ok (place ++ [part])
    else .error .notFound

/-- A walk from a place through the given parts. -/
def walk (tree : FileTree) (place : Place) (parts : List String) : Except ReadFault Place :=
  parts.foldlM tree.step place

/-- The place that a path leads to. -/
def locate (tree : FileTree) (path : String) : Except ReadFault Place :=
  match Path.fault? path with
  | some fault => .error fault
  | none =>
    let start := if Path.isAbsolute path then [] else tree.workingDirectory
    tree.walk start (Path.pieces path)

/-- The bytes of the file that a path leads to. -/
def read (tree : FileTree) (path : String) : Except ReadFault (Array UInt8) := do
  let place ← tree.locate path
  match tree.entry? place with
  | none => .error .notFound
  | some .directory => .error .isDirectory
  | some (.file bytes) => .ok bytes

/-- The tree as a disk. -/
def disk (tree : FileTree) : Disk := tree.read

/-- The tree with a file written below the working directory, over any that was there. -/
def write (tree : FileTree) (path : String) (bytes : Array UInt8) : FileTree :=
  let parts := (Path.pieces path).filter fun part => part != "" && part != "."
  { tree with files := (tree.workingDirectory ++ parts, bytes) :: tree.files }

end FileTree

end BoardSupervisor
