import Raster.Text.Hex
import Raster.Text.Layout

/-!
# Compression schemes

The info header names the scheme of the pixel array by a 32-bit code.  Seven codes have a name; any
other code is kept and shown in hexadecimal.
-/

namespace Raster.Bmp

/-- The code of a compression scheme. -/
structure Compression where
  /-- The code as it is stored. -/
  code : UInt32
deriving DecidableEq

namespace Compression

/-- Uncompressed pixels. -/
def rgb : Compression := ⟨0⟩

/-- Run lengths over 8-bit color indices. -/
def rle8 : Compression := ⟨1⟩

/-- Run lengths over 4-bit color indices. -/
def rle4 : Compression := ⟨2⟩

/-- Uncompressed pixels whose channels are located by masks. -/
def bitfields : Compression := ⟨3⟩

/-- An embedded JPEG image. -/
def jpeg : Compression := ⟨4⟩

/-- An embedded PNG image. -/
def png : Compression := ⟨5⟩

/-- Like `bitfields`, with a mask for the alpha channel too. -/
def alphaBitfields : Compression := ⟨6⟩

/-- The name of a scheme, if its code has one. -/
def name? (c : Compression) : Option String :=
  if c = rgb then some "RGB"
  else if c = rle8 then some "RLE8"
  else if c = rle4 then some "RLE4"
  else if c = bitfields then some "BITFIELDS"
  else if c = jpeg then some "JPEG"
  else if c = png then some "PNG"
  else if c = alphaBitfields then some "ALPHA_BITFIELDS"
  else none

/-- A scheme is displayed by its name, or by its code if it has none. -/
def layout (c : Compression) : Layout :=
  match c.name? with
  | some name => .atom name
  | none => .application "Compression" [.atom (Hex.numeral c.code.toNat)]

end Compression

end Raster.Bmp
