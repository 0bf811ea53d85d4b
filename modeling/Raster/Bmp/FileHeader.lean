import Raster.Bytes.LittleEndian
import Raster.Text.Escaped
import Raster.Text.Layout

/-!
# The file header

A bitmap file starts with a record of 14 bytes.  `FileHeader.ofBytes` and `FileHeader.toBytes`
give the fields their places in the record: the tag at 0, the file size at 2, two reserved
fields at 6 and 8, the offset of the pixel array at 10.
-/

namespace Raster.Bmp

open LittleEndian

/-- The leading record of a bitmap file. -/
structure FileHeader where
  /-- The type tag, two characters read as a little-endian word. -/
  tag : UInt16
  /-- The size of the file in bytes; 0 if it is not declared. -/
  fileSize : UInt32
  reserved1 : UInt16
  reserved2 : UInt16
  /-- Where the pixel array starts, counted from the start of the file. -/
  pixelOffset : UInt32
deriving DecidableEq

namespace FileHeader

/-- The characters `BM`, which every bitmap file starts with. -/
def signature : UInt16 := 0x4d42

/-- The number of bytes of the record. -/
def size : Nat := 14

/-- A header with the signature and empty reserved fields. -/
def new (fileSize pixelOffset : UInt32) : FileHeader := ⟨signature, fileSize, 0, 0, pixelOffset⟩

/-- The record of a header. -/
def toBytes (h : FileHeader) : Bytes :=
  ofUInt16 h.tag ++ ofUInt32 h.fileSize ++ ofUInt16 h.reserved1 ++ ofUInt16 h.reserved2
    ++ ofUInt32 h.pixelOffset

/-- The header that a record holds. -/
def ofBytes (record : Bytes) : FileHeader where
  tag := u16At record 0
  fileSize := u32At record 2
  reserved1 := u16At record 6
  reserved2 := u16At record 8
  pixelOffset := u32At record 10

@[simp] theorem length_toBytes (h : FileHeader) : h.toBytes.length = size := by
  simp [toBytes, size]

/-- A record is read back as the header it was made from. -/
@[simp] theorem ofBytes_toBytes (h : FileHeader) : ofBytes h.toBytes = h := by
  have last := u32At_ofUInt32_append h.pixelOffset []
  simp only [List.append_nil] at last
  simp [ofBytes, toBytes, u16At_ofUInt16_append, u32At_ofUInt32_append, u16At_append_right,
    u32At_append_right, last]

/-- The two characters of the tag. -/
def tagBytes (h : FileHeader) : Bytes := ofUInt16 h.tag

/-- The header is displayed as a record, its tag as escaped text. -/
def layout (h : FileHeader) : Layout :=
  .record "BitmapFileHeader"
    [("file_type", .atom ("\"" ++ Escaped.ofBytes h.tagBytes ++ "\"")),
     ("file_size", .nat h.fileSize.toNat),
     ("reserved1", .nat h.reserved1.toNat),
     ("reserved2", .nat h.reserved2.toNat),
     ("pixel_offset", .nat h.pixelOffset.toNat)]
    false

end FileHeader

end Raster.Bmp
