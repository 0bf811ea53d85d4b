import Raster.Bmp.Image
import Raster.Sink

/-!
# Writing bitmap files

A bitmap is written in one of two formats.  `PixelFormat.bgr24` stores three bytes a pixel after a
plain header and drops the alpha channel; `PixelFormat.bgra32` stores four bytes a pixel after a
header that holds the masks of all four channels.  In both the rows go from the bottom of the
picture to the top, every declared size is exact, and the padding is zero.
-/

namespace Raster

open Bmp

/-- How the pixels of a written file are stored. -/
inductive PixelFormat where
  /-- Blue, green and red, one byte each. -/
  | bgr24
  /-- Blue, green, red and alpha, one byte each. -/
  | bgra32
deriving DecidableEq

namespace PixelFormat

/-- The name of a format. -/
def name : PixelFormat → String
  | bgr24 => "Bgr24"
  | bgra32 => "Bgra32"

/-- The depth of the stored pixels. -/
def depth : PixelFormat → Depth
  | bgr24 => .twentyFour
  | bgra32 => .thirtyTwo

/-- The compression scheme that describes the stored pixels. -/
def compression : PixelFormat → Compression
  | bgr24 => .rgb
  | bgra32 => .bitfields

/-- The masks that the header holds after its first 40 bytes. -/
def masks? : PixelFormat → Option ChannelMasks
  | bgr24 => none
  | bgra32 => some { ChannelMasks.standard 32 with alpha := 0xff000000 }

/-- The bytes of the info header after its first 40. -/
def extension (f : PixelFormat) : Bytes :=
  match f.masks? with
  | none => []
  | some m => Channel.all.flatMap fun c => LittleEndian.ofUInt32 (m.get c)

/-- The number of bytes of the info header. -/
def headerSize (f : PixelFormat) : Nat := InfoHeader.size + f.extension.length

/-- Where the pixel array starts. -/
def pixelOffset (f : PixelFormat) : Nat := FileHeader.size + f.headerSize

/-- The number of bytes of the pixel array of a picture. -/
def imageSize (f : PixelFormat) (width height : Nat) : Nat := f.depth.stride width * height

/-- The number of bytes of the file of a picture. -/
def fileSize (f : PixelFormat) (width height : Nat) : Nat :=
  f.pixelOffset + f.imageSize width height

/-- The header fields can hold the dimensions and the sizes of a picture. -/
def Fits (f : PixelFormat) (width height : Nat) : Prop :=
  width < 1 <<< 31 ∧ height < 1 <<< 31 ∧ f.fileSize width height < 1 <<< 32

instance (f : PixelFormat) (width height : Nat) : Decidable (f.Fits width height) :=
  inferInstanceAs (Decidable (_ ∧ _))

/-- The resolution that written files declare, 72 dots an inch, in pixels per meter. -/
def pixelsPerMeter : UInt32 := 2835

/-- The file header of a picture. -/
def fileHeader (f : PixelFormat) (width height : Nat) : FileHeader :=
  .new (.ofNat (f.fileSize width height)) (.ofNat f.pixelOffset)

/-- The info header of a picture. -/
def infoHeader (f : PixelFormat) (width height : Nat) : InfoHeader :=
  (InfoHeader.new (.ofNat width) (.ofNat height) (.ofNat f.depth.bits) f.compression).changes
    [.headerSize (.ofNat f.headerSize), .imageSize (.ofNat (f.imageSize width height)),
      .density pixelsPerMeter pixelsPerMeter]

/-- The bytes of a pixel. -/
def store (f : PixelFormat) (c : Color) : Bytes :=
  match f with
  | bgr24 => [c.blue, c.green, c.red]
  | bgra32 => [c.blue, c.green, c.red, c.alpha]

/-- The bytes of a row: its pixels, padded with zeros. -/
def storeRow (f : PixelFormat) (row : List Color) : Bytes :=
  let bytes := row.flatMap f.store
  bytes ++ List.replicate (f.depth.stride row.length - bytes.length) 0

end PixelFormat

namespace Bitmap

/-- The file of a bitmap.  It is refused if a header field cannot hold what it declares. -/
def encode (b : Bitmap) (f : PixelFormat) : Except Error Bytes :=
  if f.Fits b.width b.height then
    .ok ((f.fileHeader b.width b.height).toBytes ++ (f.infoHeader b.width b.height).toBytes
      ++ f.extension ++ b.rows.reverse.flatMap f.storeRow)
  else .error (.tooLarge b.width b.height)

/-- Writes the file of a bitmap to a sink. -/
def writeTo (b : Bitmap) (f : PixelFormat) (s : Sink) : Except WriteFault Unit × Sink :=
  match b.encode f with
  | .ok bytes => s.write bytes
  | .error e => (.error (.invalidInput e), s)

end Bitmap

end Raster
