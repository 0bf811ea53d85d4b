import Raster.Bmp.Compression
import Raster.Bytes.LittleEndian

/-!
# The info header

The second record of a bitmap file describes the picture in 40 bytes.  Later kinds of the header
are longer and start with the same 40 bytes; the first field tells how long the header is.
`InfoHeader.ofBytes` and `InfoHeader.toBytes` give the eleven fields their places.
-/

namespace Raster.Bmp

open LittleEndian

/-- The first 40 bytes of an info header. -/
structure InfoHeader where
  /-- The number of bytes of the header, with those beyond this record. -/
  headerSize : UInt32
  width : Int32
  /-- Positive if the bottom row is stored first, negative if the top row is. -/
  height : Int32
  planes : UInt16
  bitsPerPixel : UInt16
  compression : Compression
  /-- The number of bytes of the pixel array; may be 0. -/
  imageSize : UInt32
  xPixelsPerMeter : UInt32
  yPixelsPerMeter : UInt32
  /-- The number of entries of the color table; 0 stands for as many as there are indices. -/
  colorsUsed : UInt32
  colorsImportant : UInt32
deriving DecidableEq

namespace InfoHeader

/-- The number of bytes of the record. -/
def size : Nat := 40

/-- A header of 40 bytes with one plane and empty optional fields. -/
def new (width height : Int32) (bitsPerPixel : UInt16) (compression : Compression) :
    InfoHeader where
  headerSize := 40
  width := width
  height := height
  planes := 1
  bitsPerPixel := bitsPerPixel
  compression := compression
  imageSize := 0
  xPixelsPerMeter := 0
  yPixelsPerMeter := 0
  colorsUsed := 0
  colorsImportant := 0

/-- The record of a header. -/
def toBytes (h : InfoHeader) : Bytes :=
  ofUInt32 h.headerSize ++ ofUInt32 h.width.toUInt32 ++ ofUInt32 h.height.toUInt32
    ++ ofUInt16 h.planes ++ ofUInt16 h.bitsPerPixel ++ ofUInt32 h.compression.code
    ++ ofUInt32 h.imageSize ++ ofUInt32 h.xPixelsPerMeter ++ ofUInt32 h.yPixelsPerMeter
    ++ ofUInt32 h.colorsUsed ++ ofUInt32 h.colorsImportant

/-- The header that a record holds. -/
def ofBytes (record : Bytes) : InfoHeader where
  headerSize := u32At record 0
  width := (u32At record 4).toInt32
  height := (u32At record 8).toInt32
  planes := u16At record 12
  bitsPerPixel := u16At record 14
  compression := ⟨u32At record 16⟩
  imageSize := u32At record 20
  xPixelsPerMeter := u32At record 24
  yPixelsPerMeter := u32At record 28
  colorsUsed := u32At record 32
  colorsImportant := u32At record 36

@[simp] theorem length_toBytes (h : InfoHeader) : h.toBytes.length = size := by
  simp [toBytes, size]

/-- A record is read back as the header it was made from. -/
@[simp] theorem ofBytes_toBytes (h : InfoHeader) : ofBytes h.toBytes = h := by
  have last := u32At_ofUInt32_append h.colorsImportant []
  simp only [List.append_nil] at last
  simp [ofBytes, toBytes, u16At_ofUInt16_append, u32At_ofUInt32_append, u16At_append_right,
    u32At_append_right, last]

/-! ## Changes to a header -/

/-- A change to the optional fields of a header. -/
inductive Change where
  /-- Declares the size of the header.  A size above 40 announces bytes after the record. -/
  | headerSize (size : UInt32)
  /-- Declares the size of the pixel array. -/
  | imageSize (size : UInt32)
  /-- Sets the horizontal and the vertical resolution, in pixels per meter. -/
  | density (x y : UInt32)
  /-- Sets the number of colors in the table and of those that matter. -/
  | colors (used important : UInt32)
deriving DecidableEq

/-- The header after a change. -/
def change (h : InfoHeader) : Change → InfoHeader
  | .headerSize size => { h with headerSize := size }
  | .imageSize size => { h with imageSize := size }
  | .density x y => { h with xPixelsPerMeter := x, yPixelsPerMeter := y }
  | .colors used important => { h with colorsUsed := used, colorsImportant := important }

/-- The header after a sequence of changes. -/
def changes (h : InfoHeader) (cs : List Change) : InfoHeader := cs.foldl change h

/-- The header is displayed as a record. -/
def layout (h : InfoHeader) : Layout :=
  .record "BitmapInfoHeader"
    [("header_size", .nat h.headerSize.toNat),
     ("width", .atom (toString h.width.toInt)),
     ("height", .atom (toString h.height.toInt)),
     ("planes", .nat h.planes.toNat),
     ("bits_per_pixel", .nat h.bitsPerPixel.toNat),
     ("compression", h.compression.layout),
     ("image_size", .nat h.imageSize.toNat),
     ("x_pels_per_meter", .nat h.xPixelsPerMeter.toNat),
     ("y_pels_per_meter", .nat h.yPixelsPerMeter.toNat),
     ("colors_used", .nat h.colorsUsed.toNat),
     ("colors_important", .nat h.colorsImportant.toNat)]
    false

end InfoHeader

end Raster.Bmp
