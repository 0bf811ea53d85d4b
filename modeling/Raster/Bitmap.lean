import Raster.Bytes.Pieces
import Raster.Bytes.LittleEndian
import Raster.Error
import Raster.Text.Layout

/-!
# Bitmaps

A `Bitmap` is a picture in memory: the red, green, blue and alpha byte of every pixel, the rows
from top to bottom and the pixels of a row from left to right, without gaps.  It has at least one
pixel, and as many bytes as its dimensions say.
-/

namespace Raster

/-- A color with an alpha channel. -/
structure Color where
  red : UInt8
  green : UInt8
  blue : UInt8
  alpha : UInt8
deriving DecidableEq

namespace Color

/-- The four bytes of a color. -/
def toBytes (c : Color) : Bytes := [c.red, c.green, c.blue, c.alpha]

/-- The color with the given four bytes. -/
def ofBytes? : Bytes → Option Color
  | [red, green, blue, alpha] => some ⟨red, green, blue, alpha⟩
  | _ => none

@[simp] theorem ofBytes?_toBytes (c : Color) : ofBytes? c.toBytes = some c := rfl

@[simp] theorem length_toBytes (c : Color) : c.toBytes.length = 4 := rfl

end Color

/-- A picture in memory. -/
structure Bitmap where
  /-- The number of pixels of a row. -/
  width : Nat
  /-- The number of rows. -/
  height : Nat
  /-- The bytes of the pixels, four a pixel, top row first. -/
  pixels : Bytes
  width_pos : 0 < width
  height_pos : 0 < height
  length_pixels : pixels.length = width * height * 4
deriving DecidableEq

namespace Bitmap

/-- The bitmap with given dimensions and pixels.  It is refused if it has no pixels, or if the
number of bytes is not the one that its dimensions ask for. -/
def ofPixels (width height : Nat) (pixels : Bytes) : Except Error Bitmap :=
  if hw : width = 0 then .error (.invalidDimensions width height)
  else if hh : height = 0 then .error (.invalidDimensions width height)
  else if hp : pixels.length = width * height * 4 then
    .ok ⟨width, height, pixels, Nat.pos_of_ne_zero hw, Nat.pos_of_ne_zero hh, hp⟩
  else .error (.wrongPixelCount width height (width * height * 4) pixels.length)

/-- Width and height. -/
def dimensions (b : Bitmap) : Nat × Nat := (b.width, b.height)

/-- The color in column `x` and row `y`, counted from the top left corner. -/
def pixel? (b : Bitmap) (x y : Nat) : Option Color :=
  if x < b.width ∧ y < b.height then
    Color.ofBytes? ((b.pixels.drop ((y * b.width + x) * 4)).take 4)
  else none

/-- The colors of the pixels, a list for each row, top row first. -/
def rows (b : Bitmap) : List (List Color) :=
  (pieces b.height (b.width * 4) b.pixels).map fun row =>
    (pieces b.width 4 row).filterMap Color.ofBytes?

/-- Bitmaps are displayed by their dimensions. -/
def layout (b : Bitmap) : Layout :=
  .record "Bitmap" [("width", .nat b.width), ("height", .nat b.height)] true

/-- A bitmap is made of the bytes it shows. -/
theorem ofPixels_pixels (b : Bitmap) : ofPixels b.width b.height b.pixels = .ok b := by
  have hw := b.width_pos
  have hh := b.height_pos
  simp [ofPixels, b.length_pixels, Nat.ne_of_gt hw, Nat.ne_of_gt hh]

end Bitmap

end Raster
