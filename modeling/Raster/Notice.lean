import Raster.Error

/-!
# Notices

What the library tells a user besides its results.  A `Notice` is an event with the values its text
names; `Logged` is a result together with the notices given on the way to it, the earliest first.

The notice of a load also tells how long the load took.  That is no value of the event, so
`Notice.text` leaves it out and `Notice.timedText` puts it in.
-/

namespace Raster

open Bmp (Compression)

/-- How much a notice matters. -/
inductive Notice.Level where
  | warn
  | debug
  | trace
deriving DecidableEq

/-- The name of a level. -/
def Notice.Level.name : Notice.Level → String
  | warn => "WARN"
  | debug => "DEBUG"
  | trace => "TRACE"

/-- An event that a user is told of. -/
inductive Notice where
  /-- There are bytes after the declared end of the file. -/
  | trailingBytes (count declared : Nat)
  /-- The reserved fields of the file header are in use. -/
  | reservedFields (first second : UInt16)
  /-- The declared size of the pixel array is wrong. -/
  | imageSize (declared actual : Nat)
  /-- A bitmap file has been read. -/
  | geometry (width height : Int) (bits : Nat) (compression : Compression)
      (entries stride : Nat)
  /-- The file at a path has been loaded. -/
  | loaded (width height : Nat) (path : String)
  /-- The file at a path could not be loaded. -/
  | loadFailed (path : String) (error : Error)
deriving DecidableEq

namespace Notice

/-- How much a notice matters. -/
def level : Notice → Level
  | trailingBytes .. | reservedFields .. | imageSize .. | loadFailed .. => .warn
  | geometry .. => .debug
  | loaded .. => .trace

/-- The display of a reserved field. -/
def wordText (word : UInt16) : String := "0x" ++ Hex.padded 4 word.toNat

/-- The text of a notice.  The times at the end of the text on a load are left out. -/
def text : Notice → String
  | trailingBytes count declared =>
    s!"ignoring {count} trailing bytes after the declared file size of {declared}"
  | reservedFields first second =>
    s!"reserved file header fields are non-zero ({wordText first}, {wordText second})"
  | imageSize declared actual =>
    s!"info header declares an image size of {declared} bytes, but the pixel array has {actual} "
      ++ "bytes"
  | geometry width height bits compression entries stride =>
    s!"{width}x{height} bitmap, {bits} bpp, compression {compression.layout.flat}, "
      ++ s!"{entries} color table entries, stride {stride}"
  | loaded width height path => s!"loaded {width}x{height} bitmap from '{path}'"
  | loadFailed path error => s!"failed to load bitmap '{path}': {error.message}"

/-- A notice as a line of a log, without times. -/
def line (n : Notice) : String := s!"{n.level.name}: {n.text}"

/-- How long the parts of a load took, each as the system displays a time. -/
structure Timings where
  read : String
  decode : String
  select : String

/-- The whole text of a notice, at some times. -/
def timedText (n : Notice) (t : Timings) : String :=
  match n with
  | loaded .. => s!"{n.text}: t_read={t.read}, t_decode={t.decode}, t_select={t.select}"
  | _ => n.text

/-- A notice as a line of a log, at some times. -/
def timedLine (n : Notice) (t : Timings) : String := s!"{n.level.name}: {n.timedText t}"

end Notice

/-- A result with the notices given on the way to it. -/
structure Logged (α : Type) where
  /-- The result. -/
  value : α
  /-- The notices, the earliest first. -/
  log : List Notice := []

namespace Logged

variable {α β : Type}

/-- The same notices with another result. -/
def map (f : α → β) (r : Logged α) : Logged β := ⟨f r.value, r.log⟩

/-- A further step, whose notices follow. -/
def andThen (r : Logged α) (f : α → Logged β) : Logged β :=
  let next := f r.value
  ⟨next.value, r.log ++ next.log⟩

@[simp] theorem value_map (f : α → β) (r : Logged α) : (r.map f).value = f r.value := rfl

@[simp] theorem log_map (f : α → β) (r : Logged α) : (r.map f).log = r.log := rfl

@[simp] theorem value_andThen (r : Logged α) (f : α → Logged β) :
    (r.andThen f).value = (f r.value).value := rfl

@[simp] theorem log_andThen (r : Logged α) (f : α → Logged β) :
    (r.andThen f).log = r.log ++ (f r.value).log := rfl

end Logged

end Raster
