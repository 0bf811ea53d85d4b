import Raster.Bmp.PixelFormat
import Raster.FileTree
import Raster.Png.Picture

/-!
# Converting PNG files

A conversion takes the name of a PNG file and the name of the bitmap file to write.  Without a flag
the bitmap is written without an alpha channel; with the flag `--alpha` it keeps the alpha channel
of the picture.

The steps (`Conversion.steps`) are: the arguments, opening the PNG file, its header, the depth of
its samples, a buffer for the samples, the samples, the color type, a buffer for the pixels, the
output file.  The first step that fails gives the error, and the output file is touched only when
all else is known to be right.  They are the same for the files of a `FileTree` and for those of the
system, which differ in the way files are accessed (`Conversion.FileAccess`).

Two failures are not reported by the program but end it in a panic: an argument that is no text, and
a buffer that is larger than `maxCapacity`.
-/

namespace Raster

/-- What a conversion is asked to do. -/
structure Conversion where
  source : String
  target : String
  format : PixelFormat
deriving DecidableEq

namespace Conversion

/-- Why the program ends in a panic. -/
inductive Panic where
  /-- An argument is not a text in UTF-8. -/
  | argument
  /-- A buffer is larger than any that can be asked for. -/
  | capacity
deriving DecidableEq

/-- Why a conversion failed. -/
inductive Failure where
  /-- The arguments are not understood. -/
  | usage
  /-- A file cannot be read or created. -/
  | file (fault : FileTree.Fault)
  /-- The system reports another failure of a file operation. -/
  | system (text : String)
  /-- The PNG file cannot be read. -/
  | png (fault : Png.Fault)
  /-- The samples of the picture do not have eight bits. -/
  | depth (found : Png.SampleDepth)
  /-- The picture is neither in RGB nor in RGBA. -/
  | colorType (colorType : Png.ColorType)
  /-- The picture cannot be made a bitmap. -/
  | bitmap (error : Error)
  /-- The program ends in a panic. -/
  | panic (reason : Panic)
deriving DecidableEq

/-- The message of a panic, without the value that it displays. -/
def Panic.message : Panic → String
  | argument => "called `Result::unwrap()` on an `Err` value"
  | capacity => "capacity overflow"

/-- The message of a failure. -/
def Failure.message : Failure → String
  | usage => "usage: png2bmp <infile.png> <outfile.bmp> [--alpha]"
  | file fault => fault.message
  | system text => text
  | png fault => fault.message
  | depth found =>
    "Condition failed: `reader.info().bit_depth == png::BitDepth::Eight` "
      ++ s!"({found.name} vs {Png.SampleDepth.eight.name})"
  | colorType found =>
    s!"unsupported PNG color type {found.name} (only RGB and RGBA are supported)"
  | bitmap error => error.message
  | panic reason => reason.message

/-- The conversion that arguments ask for. -/
def ofArguments : List String → Except Failure Conversion
  | [source, target] => .ok ⟨source, target, .bgr24⟩
  | [source, target, flag] =>
    if flag = "--alpha" then .ok ⟨source, target, .bgra32⟩ else .error .usage
  | _ => .error .usage

/-- The pixels of a picture with four samples each, from its samples.  Pixels of three samples are
copied to a buffer of their own. -/
def rgbaOfSamples (colorType : Png.ColorType) (samples : Bytes) : Except Failure Bytes :=
  match colorType with
  | .rgba => .ok samples
  | .rgb => do
    let count := samples.length / 3
    require (count * 4 ≤ maxCapacity) (.panic .capacity)
    return (pieces count 3 samples).flatMap (· ++ [0xff])
  | other => .error (.colorType other)

variable {σ : Type}

/-- The bitmap of the picture that a reader finds in some data. -/
def bitmapOf (r : Png.Reader σ) (data : Bytes) : Except Failure Bitmap := do
  let (header, rest) ← (r.start data).mapError .png
  require (header.depth = .eight) (.depth header.depth)
  require (r.bufferSize rest ≤ maxCapacity) (.panic .capacity)
  let samples ← (r.samples rest).mapError .png
  let pixels ← rgbaOfSamples header.colorType samples
  (Bitmap.ofPixels header.width header.height pixels).mapError .bitmap

/-! ## The steps -/

/-- The means by which a conversion reads and writes files. -/
structure FileAccess (m : Type → Type) where
  /-- The content of a file. -/
  read : String → ExceptT Failure m Bytes
  /-- Writes a file, in place of any earlier one. -/
  write : String → Bytes → ExceptT Failure m Unit

/-- Carries out what arguments ask for with a reader of PNG files. -/
def steps {m : Type → Type} [Monad m] (files : FileAccess m) (r : Png.Reader σ)
    (arguments : List String) : ExceptT Failure m Unit := do
  let c ← ofArguments arguments
  let data ← files.read c.source
  let b ← bitmapOf r data
  files.write c.target []
  let bytes ← (b.encode c.format).mapError Failure.bitmap
  files.write c.target bytes

/-- Access to the files of a file tree. -/
def treeAccess : FileAccess (StateM FileTree) where
  read path := .mk fun t => ((t.read path).mapError .file, t)
  write path data := .mk fun t =>
    match (t.write path data).mapError .file with
    | .ok written => (.ok (), written)
    | .error e => (.error e, t)

/-- Carries out what arguments ask for with a reader of PNG files, and gives the files
afterwards. -/
def runWith (r : Png.Reader σ) (arguments : List String) (t : FileTree) :
    Except Failure Unit × FileTree :=
  ((steps treeAccess r arguments).run).run t

/-- Carries out what arguments ask for, and gives the files afterwards. -/
def run (arguments : List String) (t : FileTree) : Except Failure Unit × FileTree :=
  runWith Png.reader arguments t

/-! ## Start and end of the program -/

/-- The text that the system gives as an argument. -/
def textOf (argument : Bytes) : Except Failure String :=
  match String.fromUTF8? ⟨argument.toArray⟩ with
  | some text => .ok text
  | none => .error (.panic .argument)

/-- Carries out what the system gives as arguments.  The first of them is the name of the program,
which has to be a text like the others. -/
def startWith (r : Png.Reader σ) (given : List Bytes) (t : FileTree) :
    Except Failure Unit × FileTree :=
  match given.mapM textOf with
  | .error e => (.error e, t)
  | .ok texts => runWith r texts.tail t

/-- What a user sees of a conversion. -/
structure Report where
  exitCode : UInt32
  /-- What the program writes to the standard error stream.  The text on a panic is not written by
  the program but for it, with the place of the panic, and is left out. -/
  complaint : String
deriving DecidableEq

/-- The report on a result: a failure is told in a line, and the exit code is 1.  After a panic the
exit code is 101. -/
def report : Except Failure Unit → Report
  | .ok () => ⟨0, ""⟩
  | .error (.panic _) => ⟨101, ""⟩
  | .error e => ⟨1, s!"Error: {e.message}\n"⟩

end Conversion

end Raster
