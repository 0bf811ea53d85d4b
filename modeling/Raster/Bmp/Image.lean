import Raster.Bmp.ChannelMasks
import Raster.Bmp.ColorTable
import Raster.Bmp.Depth
import Raster.Bmp.FileHeader
import Raster.Bmp.InfoHeader

/-!
# Stored images

An `Image` is what a bitmap file holds, before its pixels are turned into colors: the two headers,
the depth, the source of the colors, and the bytes of the pixel array.  Its rows are stored from
the bottom of the picture to the top, or from the top to the bottom if the height is negative;
`Image.rows` lists them from the top in either case.
-/

namespace Raster.Bmp

/-- Where the colors of an image come from. -/
inductive ColorSource where
  /-- A pixel is an index into a table. -/
  | table (entries : ColorTable)
  /-- A pixel is three bytes: blue, green and red. -/
  | direct
  /-- Masks locate the channels in a pixel. -/
  | masks (masks : ChannelMasks)
deriving DecidableEq

/-- The content of a bitmap file. -/
structure Image where
  fileHeader : FileHeader
  infoHeader : InfoHeader
  depth : Depth
  source : ColorSource
  /-- The rows with their padding, in the order in which they are stored. -/
  pixelData : Bytes
deriving DecidableEq

namespace InfoHeader

/-- The number of columns. -/
def columns (h : InfoHeader) : Nat := h.width.toInt.natAbs

/-- The number of rows. -/
def rows (h : InfoHeader) : Nat := h.height.toInt.natAbs

/-- Whether the top row is stored first. -/
def topDown (h : InfoHeader) : Bool := h.height < 0

end InfoHeader

namespace Image

/-- The number of pixels of a row. -/
def width (i : Image) : Nat := i.infoHeader.columns

/-- The number of rows. -/
def height (i : Image) : Nat := i.infoHeader.rows

/-- Whether the top row is stored first. -/
def topDown (i : Image) : Bool := i.infoHeader.topDown

/-- The number of bytes of a stored row. -/
def stride (i : Image) : Nat := i.depth.stride i.width

/-- The masks of the channels, empty unless masks locate the channels. -/
def masks (i : Image) : ChannelMasks :=
  match i.source with
  | .masks m => m
  | _ => .empty

/-- The color table, empty unless pixels are indices. -/
def colorTable (i : Image) : ColorTable :=
  match i.source with
  | .table entries => entries
  | _ => []

/-- The rows in the order in which they are stored. -/
def storedRows (i : Image) : List Bytes := pieces i.height i.stride i.pixelData

/-- The rows from the top of the picture to the bottom. -/
def rows (i : Image) : List Bytes := if i.topDown then i.storedRows else i.storedRows.reverse

/-- The image is displayed as a record that does not show its pixels. -/
def layout (i : Image) : Layout :=
  .record "BmpFile"
    [("file_header", i.fileHeader.layout),
     ("info_header", i.infoHeader.layout),
     ("masks", i.masks.layout),
     ("color_table", i.colorTable.layout),
     ("stride", .nat i.stride)]
    true

@[simp] theorem length_storedRows (i : Image) : i.storedRows.length = i.height := by
  simp [storedRows]

@[simp] theorem length_rows (i : Image) : i.rows.length = i.height := by
  unfold rows
  split <;> simp

end Image

end Raster.Bmp
