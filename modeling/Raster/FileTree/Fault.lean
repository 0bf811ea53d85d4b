/-!
# Why a path cannot be used

The ways in which a path fails to name what an operation needs, each with its text and the number
that the operating system gives to it.  A path with a zero byte never gets to the operating system,
so that fault has no number.
-/

namespace Raster.FileTree

/-- Why a path cannot be used. -/
inductive Fault where
  /-- Nothing has this name. -/
  | notFound
  /-- The path leads through something that is not a directory. -/
  | notADirectory
  /-- A file is needed where there is a directory. -/
  | isADirectory
  /-- The path or one of its names is too long. -/
  | nameTooLong
  /-- The path has a zero byte. -/
  | zeroByte
deriving DecidableEq

namespace Fault

/-- The number of a fault, unless it shows in the path alone. -/
def code? : Fault → Option Nat
  | notFound => some 2
  | notADirectory => some 20
  | isADirectory => some 21
  | nameTooLong => some 36
  | zeroByte => none

/-- The name of a fault. -/
def name : Fault → String
  | notFound => "NotFound"
  | notADirectory => "NotADirectory"
  | isADirectory => "IsADirectory"
  | nameTooLong => "InvalidFilename"
  | zeroByte => "InvalidInput"

/-- The text of a fault. -/
def text : Fault → String
  | notFound => "No such file or directory"
  | notADirectory => "Not a directory"
  | isADirectory => "Is a directory"
  | nameTooLong => "File name too long"
  | zeroByte => "file name contained an unexpected NUL byte"

/-- The text of a fault, with its number if it has one. -/
def message (f : Fault) : String :=
  match f.code? with
  | some code => s!"{f.text} (os error {code})"
  | none => f.text

/-- The display of a fault. -/
def display (f : Fault) : String :=
  match f.code? with
  | some code => s!"Os \x7b code: {code}, kind: {f.name}, message: \"{f.text}\" \x7d"
  | none => s!"Error \x7b kind: {f.name}, message: \"{f.text}\" \x7d"

end Fault

end Raster.FileTree
