import Raster.Bytes.LittleEndian
import Raster.Dictionary
import Raster.FileTree.Fault
import Raster.Require

/-!
# File trees

The files and directories around a working directory.  A `Location` is the list of names that
leads from there to a file or directory, and a `FileTree` says what is at which location.  A
location above the working directory starts with `..` for each step up, and one that is told from
the root of the file system starts with `/`.

A path is a text in which names are separated by slashes.  A path that starts with a slash is
followed from the root, any other from the working directory.  It is followed name by name
(`FileTree.follow`): each step needs a directory to stand in; the empty name and `.` stay there,
and `..` goes back up.  So a path that ends in a slash can only name a directory, and the empty path
names nothing.

A path has no zero byte and at most `maxPathSize` bytes, which is checked first.  A name has at most
`maxNameSize` bytes, which is checked when the name is looked up, so the directories before it have
to be there.

This is less than what file systems have.  There are directories and regular files only, so no
links; all of them can be read and written, so no permissions; nothing but the operations here
changes them; and the size that the system tells of a file is the length of its content.
-/

namespace Raster

/-- The names that lead from the working directory, or from the root, to a file or directory. -/
abbrev Location := List String

/-- What can be at a location. -/
inductive FileTree.Node where
  | file (data : Bytes)
  | directory
deriving DecidableEq

/-- The files and directories around a working directory. -/
structure FileTree where
  nodes : Dictionary Location FileTree.Node
  /-- The number of bytes that a directory counts for, which is up to the file system. -/
  directorySize : Nat

namespace FileTree

/-- The number of bytes that a file or directory counts for. -/
def size (t : FileTree) : Node → Nat
  | .file data => data.length
  | .directory => t.directorySize

/-- The working directory without content, on a file system with blocks of 4096 bytes. -/
def empty : FileTree := ⟨.empty, 4096⟩

/-- What is at a location.  The working directory, those above it and the root are always there. -/
def node? (t : FileTree) (loc : Location) : Option Node :=
  if loc.all (· ∈ ["..", "/"]) then some .directory else t.nodes.get? loc

/-- Puts a file or directory at a location. -/
def insert (t : FileTree) (loc : Location) (node : Node) : FileTree :=
  { t with nodes := t.nodes.insert loc node }

/-- Takes away what is at a location. -/
def erase (t : FileTree) (loc : Location) : FileTree := { t with nodes := t.nodes.erase loc }

/-- Fails unless there is a directory at a location. -/
def requireDirectory (t : FileTree) (loc : Location) : Except Fault Unit :=
  match t.node? loc with
  | some .directory => .ok ()
  | some (.file _) => .error .notADirectory
  | none => .error .notFound

/-! ## Paths -/

/-- The names of a path. -/
def names (path : String) : List String := path.splitOn "/"

/-- The number of bytes of the longest name. -/
def maxNameSize : Nat := 255

/-- The number of bytes of the longest path. -/
def maxPathSize : Nat := 4095

/-- Fails unless a path has no zero byte and a length that paths can have. -/
def requirePath (path : String) : Except Fault Unit := do
  require ('\x00' ∉ path.toList) .zeroByte
  require (path ≠ "") .notFound
  require (path.utf8ByteSize ≤ maxPathSize) .nameTooLong

/-- Fails unless a name has a length that names can have. -/
def requireName (name : String) : Except Fault Unit :=
  require (name.utf8ByteSize ≤ maxNameSize) .nameTooLong

/-- The location at which a path starts. -/
def start (path : String) : Location := if path.startsWith "/" then ["/"] else []

/-- The location above a location.  There is none above the root. -/
def above (loc : Location) : Location :=
  match loc.getLast? with
  | none | some ".." => loc ++ [".."]
  | some "/" => loc
  | some _ => loc.dropLast

/-- The location that a name leads to from a directory. -/
def descend (loc : Location) (name : String) : Location :=
  if name = "" ∨ name = "." then loc
  else if name = ".." then above loc
  else loc ++ [name]

/-- The location that names lead to.  Nothing needs to be there. -/
def follow (t : FileTree) (loc : Location) : List String → Except Fault Location
  | [] => .ok loc
  | name :: rest => do
    t.requireDirectory loc
    requireName name
    t.follow (descend loc name) rest

/-- The location that a path names. -/
def locate (t : FileTree) (path : String) : Except Fault Location := do
  requirePath path
  t.follow (start path) (names path)

/-! ## Reading -/

/-- What a path names. -/
def stat (t : FileTree) (path : String) : Except Fault Node := do
  match t.node? (← t.locate path) with
  | some node => return node
  | none => throw .notFound

/-- The content of the file that a path names. -/
def read (t : FileTree) (path : String) : Except Fault Bytes := do
  match ← t.stat path with
  | .file data => return data
  | .directory => throw .isADirectory

/-! ## Writing -/

/-- A name that a file can have. -/
def IsFileName (name : String) : Prop := name ≠ "" ∧ name ≠ "." ∧ name ≠ ".."

instance (name : String) : Decidable (IsFileName name) := inferInstanceAs (Decidable (_ ∧ _))

/-- The location at which a path asks for a file: its directory has to be there, the path has to end
in a name that a file can have, the name must not be too long, and there must not be a directory of
that name. -/
def place (t : FileTree) (path : String) : Except Fault Location := do
  requirePath path
  match (names path).reverse.dropWhile (· = "") with
  | [] => throw .isADirectory
  | last :: parents =>
    let directory ← t.follow (start path) parents.reverse
    t.requireDirectory directory
    require (IsFileName ((names path).getLastD "")) .isADirectory
    requireName last
    require (t.node? (directory ++ [last]) ≠ some .directory) .isADirectory
    return directory ++ [last]

/-- The tree in which a path names a file with the given content, in place of any earlier one. -/
def write (t : FileTree) (path : String) (data : Bytes) : Except Fault FileTree := do
  return t.insert (← t.place path) (.file data)

/-- The tree without the file that a path names. -/
def remove (t : FileTree) (path : String) : Except Fault FileTree := do
  let loc ← t.locate path
  match t.node? loc with
  | some (.file _) => return t.erase loc
  | some .directory => throw .isADirectory
  | none => throw .notFound

/-- The tree with a directory at a location. -/
def makeDirectoryAt (t : FileTree) (loc : Location) : Except Fault FileTree :=
  match t.node? loc with
  | some .directory => .ok t
  | some (.file _) => .error .notADirectory
  | none => .ok (t.insert loc .directory)

/-- The tree with directories at a location and along names from there. -/
def makeDirectories (t : FileTree) (loc : Location) : List String → Except Fault FileTree
  | [] => t.makeDirectoryAt loc
  | name :: rest => do
    let t ← t.makeDirectoryAt loc
    requireName name
    t.makeDirectories (descend loc name) rest

/-- The tree in which a path names a directory. -/
def makeDirectory (t : FileTree) (path : String) : Except Fault FileTree :=
  t.makeDirectories (start path) (names path)

/-- The tree in which a path names a file, with the directories that it needs. -/
def plant (t : FileTree) (path : String) (data : Bytes) : Except Fault FileTree := do
  let t ← t.makeDirectories (start path) (names path).dropLast
  t.write path data

end FileTree

end Raster
