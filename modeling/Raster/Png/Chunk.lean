import Raster.Png.Header

/-!
# The chunks of a PNG file

A PNG file is a signature and a sequence of chunks.  A chunk is the number of its data bytes, a name
of four letters, the data and a checksum of four bytes.  `Chunk.scan` lists the chunks of a file;
the last one can be cut short by the end of the file.  Checksums are passed over.
-/

namespace Raster.Png

/-- The bytes that every PNG file starts with. -/
def signature : Bytes := [0x89, 0x50, 0x4e, 0x47, 0x0d, 0x0a, 0x1a, 0x0a]

/-- A chunk of a PNG file. -/
structure Chunk where
  /-- The four letters of the name. -/
  name : Bytes
  data : Bytes
  /-- The file does not end within the chunk. -/
  whole : Bool
deriving DecidableEq

namespace Chunk

/-- The name of the chunk that holds the header, `IHDR`. -/
def header : Bytes := [0x49, 0x48, 0x44, 0x52]

/-- The name of the chunks that hold the picture, `IDAT`. -/
def picture : Bytes := [0x49, 0x44, 0x41, 0x54]

/-- The name of the last chunk, `IEND`. -/
def last : Bytes := [0x49, 0x45, 0x4e, 0x44]

/-- The number of bytes of a chunk besides its data. -/
def overhead : Nat := 12

/-- The chunks from some place in a file on, up to the last one or the end of the file. -/
def scan (bytes : Bytes) : List Chunk :=
  if bytes.length < 8 then []
  else
    let count := bigEndian (bytes.take 4)
    let name := (bytes.drop 4).take 4
    let whole := decide (count + overhead ≤ bytes.length)
    let chunk : Chunk := ⟨name, (bytes.drop 8).take count, whole⟩
    if name = last then [chunk] else chunk :: scan (bytes.drop (count + overhead))
termination_by bytes.length
decreasing_by
  simp only [List.length_drop, overhead]
  omega

end Chunk

end Raster.Png
