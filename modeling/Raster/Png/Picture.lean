import Raster.Deflate.Inflate
import Raster.Png.Chunk
import Raster.Png.Filter
import Raster.Png.Pass
import Raster.Require

/-!
# PNG pictures

A PNG file is read in two steps, which a `Reader` offers one by one.  `Opened.ofBytes` reads up to
the first chunk of the picture, which is enough to know the header.  `Opened.samples` then restores
the samples of all pixels, for pictures with samples of eight bits: the data of the picture chunks
is put together and uncompressed, its rows are restored pass by pass, and the pixels of the passes
are put in order.
-/

namespace Raster.Png

/-- Why a PNG file cannot be read. -/
inductive Fault where
  /-- The file does not start with the signature. -/
  | signature
  /-- The file ends too early. -/
  | endOfFile
  /-- The header is missing or invalid. -/
  | header
  /-- The picture is too large. -/
  | limits
  /-- There is no picture. -/
  | noPicture
  /-- The data of the picture is damaged. -/
  | damaged
deriving DecidableEq

/-- The message of a fault. -/
def Fault.message : Fault → String
  | signature => "Invalid PNG signature."
  | endOfFile => "unexpected end of file"
  | header => "invalid PNG header"
  | limits => "limits are exceeded"
  | noPicture => "PNG file without picture"
  | damaged => "damaged PNG picture"

/-- A PNG file read up to its first picture chunk. -/
structure Opened where
  header : Header
  /-- The chunks from the first picture chunk on. -/
  chunks : List Chunk
deriving DecidableEq

namespace Opened

/-- The header in the first of the chunks of a file. -/
def headerOf : List Chunk → Except Fault Header
  | [] => .error .endOfFile
  | first :: _ => do
    require (first.name = Chunk.header) .header
    require first.whole .endOfFile
    match Header.ofBytes? first.data with
    | some header => return header
    | none => throw .header

/-- Fails unless a file starts with the words of the signature.  They are compared one after
another, so a word that differs counts before the file is found to be too short for the next one. -/
def requireSignature (data : Bytes) : List Bytes → Except Fault Unit
  | [] => .ok ()
  | word :: rest => do
    require (word.length ≤ data.length) .endOfFile
    require (data.take word.length = word) .signature
    requireSignature (data.drop word.length) rest

/-- Reads a PNG file up to its first picture chunk.  The number of bytes of the picture has to fit
64 bits, which the header alone shows; the length of a row counts when the picture starts. -/
def ofBytes (data : Bytes) : Except Fault Opened := do
  requireSignature data (pieces 2 4 signature)
  let all := Chunk.scan (data.drop signature.length)
  let header ← headerOf all
  require (header.size < 1 <<< 64) .limits
  let chunks := all.dropWhile (·.name ≠ Chunk.picture)
  require (chunks ≠ []) (if all.any (·.name = Chunk.last) then .noPicture else .endOfFile)
  require (header.rowSize header.width ≤ Header.maxRowSize) .limits
  return ⟨header, chunks⟩

/-- The compressed data of the picture: that of the picture chunks, which end where another chunk
starts. -/
def compressed (o : Opened) : Except Fault Bytes := do
  let pictures := o.chunks.takeWhile (·.name = Chunk.picture)
  require (pictures.length < o.chunks.length) .endOfFile
  return pictures.flatMap Chunk.data

/-- The passes in which the picture is stored. -/
def passes (o : Opened) : List Pass :=
  if o.header.interlaced then Pass.interlaced else Pass.plain

end Opened

namespace Header

/-- The number of bytes of a row of a pass, with the byte before it that names its filter. -/
def passRowSize (h : Header) (p : Pass) : Nat := h.rowSize (p.width h.width) + 1

/-- The number of bytes of the rows of a pass. -/
def passSize (h : Header) (p : Pass) : Nat := p.height h.width h.height * h.passRowSize p

/-- The rows of a pass, at the start of some bytes. -/
def passRows? (h : Header) (p : Pass) (data : Bytes) : Option (List (Array UInt8)) := do
  guard (h.passSize p ≤ data.length)
  let rows := pieces (p.height h.width h.height) (h.passRowSize p) data
  Filter.restoreRows? h.colorType.samples #[] rows

/-- The rows of passes, one after another. -/
def passesRows? (h : Header) : List Pass → Bytes → Option (List (Pass × Array (Array UInt8)))
  | [], _ => some []
  | p :: rest, data => do
    let rows ← h.passRows? p data
    return (p, rows.toArray) :: (← h.passesRows? rest (data.drop (h.passSize p)))

/-- The samples of a pixel, from the rows of the first pass that takes it. -/
def pixel? (h : Header) (passes : List (Pass × Array (Array UInt8))) (x y : Nat) :
    Option Bytes := do
  let (pass, rows) ← passes.find? fun p => p.1.Covers x y
  let row ← rows[pass.row y]?
  let start := pass.column x * h.colorType.samples
  return (row.extract start (start + h.colorType.samples)).toList

/-- The samples of all pixels, row by row from the top left corner, from the uncompressed data of
the passes. -/
def samples? (h : Header) (passes : List Pass) (data : Bytes) : Option Bytes := do
  let rows ← h.passesRows? passes data
  let positions := (List.range h.height).flatMap fun y => (List.range h.width).map fun x => (x, y)
  return (← positions.mapM fun p => h.pixel? rows p.1 p.2).flatten

end Header

/-- The samples of all pixels, row by row from the top left corner, if they have eight bits. -/
def Opened.samples (o : Opened) : Except Fault Bytes := do
  let compressed ← o.compressed
  match (Deflate.inflateWrapped compressed).bind (o.header.samples? o.passes) with
  | some samples => return samples
  | none => throw .damaged

/-! ## Readers -/

/-- A reader of PNG files, in two steps: the header of a picture comes first, and what is then left
to read gives the samples, for which a buffer is needed. -/
structure Reader (σ : Type) where
  start : Bytes → Except Fault (Header × σ)
  /-- The number of bytes of the buffer. -/
  bufferSize : σ → Nat
  samples : σ → Except Fault Bytes

/-- The reader of this library. -/
def reader : Reader Opened where
  start data := do
    let opened ← Opened.ofBytes data
    return (opened.header, opened)
  bufferSize o := o.header.size
  samples := Opened.samples

end Raster.Png
