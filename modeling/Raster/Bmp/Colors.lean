import Raster.Bmp.Image

/-!
# The colors of an image

`Image.bitmap` gives every pixel of a stored image its color.  The number that a pixel holds is
looked up in the color table, or it is the color itself, or its channels are read through masks; a
channel without a mask is 0, and opaque if it is the alpha channel.  Only an index that the table
does not have makes this fail, and of several such pixels the first one is reported: rows go from
top to bottom, pixels from left to right.
-/

namespace Raster.Bmp

/-- The color that the masks find in a pixel. -/
def ChannelMasks.color (m : ChannelMasks) (pixel : Nat) : Color where
  red := m.red.levelOr 0 pixel
  green := m.green.levelOr 0 pixel
  blue := m.blue.levelOr 0 pixel
  alpha := m.alpha.levelOr 0xff pixel

/-- The color of an index. -/
def ColorTable.color (table : ColorTable) (index : Nat) : Except Error Color :=
  match table[index]? with
  | some entry => .ok entry.color
  | none => .error (.indexOutOfRange index table.length)

/-- The color whose bytes are blue, green and red, from the lowest byte of a number up. -/
def colorOfBgr (pixel : Nat) : Color :=
  ⟨.ofNat (pixel / 65536), .ofNat (pixel / 256), .ofNat pixel, 0xff⟩

/-- The color of a pixel that holds a number. -/
def ColorSource.color (source : ColorSource) (pixel : Nat) : Except Error Color :=
  match source with
  | .table entries => entries.color pixel
  | .direct => .ok (colorOfBgr pixel)
  | .masks m => .ok (m.color pixel)

namespace Image

/-- The numbers that the pixels hold, row by row from the top left corner. -/
def cells (i : Image) : List Nat := i.rows.flatMap (i.depth.cells i.width)

/-- The colors of the pixels, row by row from the top left corner. -/
def colors (i : Image) : Except Error (List Color) := i.cells.mapM i.source.color

/-- The picture that an image stores. -/
def bitmap (i : Image) : Except Error Bitmap := do
  let colors ← i.colors
  Bitmap.ofPixels i.width i.height (colors.flatMap Color.toBytes)

end Image

end Raster.Bmp
