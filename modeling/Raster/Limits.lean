import Raster.Bmp.Colors
import Raster.Bmp.Reading

/-!
# Limits

Upper bounds on what is accepted.  The size of a file is checked before the file is read, and the
dimensions of a picture before its pixels are given colors; a picture beyond the limits is refused
even if its pixels have faults of their own.
-/

namespace Raster

/-- Upper bounds on the bitmap files that are accepted. -/
structure Limits where
  maxWidth : Nat := 16384
  maxHeight : Nat := 16384
  /-- The largest size of a file, in bytes. -/
  maxFileSize : Nat := 256 * 1024 * 1024
deriving DecidableEq

namespace Limits

/-- A picture must not exceed the limits. -/
def checkDimensions (l : Limits) (width height : Nat) : Except Error Unit :=
  require (width ≤ l.maxWidth ∧ height ≤ l.maxHeight)
    (.dimensionLimit width height l.maxWidth l.maxHeight)

/-- A file must not exceed the limits. -/
def checkFileSize (l : Limits) (size : Nat) : Except Error Unit :=
  require (size ≤ l.maxFileSize) (.sizeLimit size l.maxFileSize)

/-- The limits are displayed as a record. -/
def layout (l : Limits) : Layout :=
  .record "Limits"
    [("max_width", .nat l.maxWidth), ("max_height", .nat l.maxHeight),
     ("max_file_size", .nat l.maxFileSize)]
    false

end Limits

/-- The bitmap that a file holds, if its dimensions are within limits. -/
def Bitmap.decode (limits : Limits) (data : Bytes) : Logged (Except Error Bitmap) :=
  (Bmp.Image.read data).map fun result => do
    let image ← result
    limits.checkDimensions image.width image.height
    image.bitmap

/-- The steps of decoding, apart from the notices. -/
theorem Bitmap.value_decode (limits : Limits) (data : Bytes) :
    (Bitmap.decode limits data).value = (Bmp.Image.read data).value >>= fun image =>
      limits.checkDimensions image.width image.height >>= fun _ => image.bitmap := rfl

end Raster
