import Raster.Bytes.LittleEndian

/-!
# The header of a PNG picture

The first chunk of a PNG picture tells its dimensions, the number of bits of a sample, which samples
a pixel has, and the order in which pixels are stored.  Not every depth goes with every color
type.
-/

namespace Raster.Png

/-- The number whose bytes are listed, the most significant one first. -/
def bigEndian (bytes : Bytes) : Nat := LittleEndian.decode bytes.reverse

/-- How many bits a sample has. -/
inductive SampleDepth where
  | one
  | two
  | four
  | eight
  | sixteen
deriving DecidableEq

namespace SampleDepth

/-- The number of bits of a sample. -/
def bits : SampleDepth → Nat
  | one => 1
  | two => 2
  | four => 4
  | eight => 8
  | sixteen => 16

/-- The depth with a given number of bits. -/
def ofBits? : Nat → Option SampleDepth
  | 1 => some one
  | 2 => some two
  | 4 => some four
  | 8 => some eight
  | 16 => some sixteen
  | _ => none

/-- The name of a depth. -/
def name : SampleDepth → String
  | one => "One"
  | two => "Two"
  | four => "Four"
  | eight => "Eight"
  | sixteen => "Sixteen"

end SampleDepth

/-- Which samples a pixel has. -/
inductive ColorType where
  | grayscale
  | rgb
  | indexed
  | grayscaleAlpha
  | rgba
deriving DecidableEq

namespace ColorType

/-- The color type of a code. -/
def ofCode? : Nat → Option ColorType
  | 0 => some grayscale
  | 2 => some rgb
  | 3 => some indexed
  | 4 => some grayscaleAlpha
  | 6 => some rgba
  | _ => none

/-- The name of a color type. -/
def name : ColorType → String
  | grayscale => "Grayscale"
  | rgb => "Rgb"
  | indexed => "Indexed"
  | grayscaleAlpha => "GrayscaleAlpha"
  | rgba => "Rgba"

/-- The number of samples of a pixel. -/
def samples : ColorType → Nat
  | grayscale => 1
  | rgb => 3
  | indexed => 1
  | grayscaleAlpha => 2
  | rgba => 4

/-- The depths that go with a color type. -/
def allows : ColorType → SampleDepth → Bool
  | grayscale, _ => true
  | indexed, d => d ≠ .sixteen
  | _, d => d = .eight || d = .sixteen

end ColorType

/-- What a PNG picture says about itself. -/
structure Header where
  width : Nat
  height : Nat
  depth : SampleDepth
  colorType : ColorType
  /-- The pixels are stored in seven passes. -/
  interlaced : Bool
deriving DecidableEq

namespace Header

/-- The header that the data of a chunk holds. -/
def ofBytes? (data : Bytes) : Option Header :=
  match data.drop 8 with
  | [depth, colorType, 0, 0, interlace] => do
    let width := bigEndian (data.take 4)
    let height := bigEndian ((data.drop 4).take 4)
    let depth ← SampleDepth.ofBits? depth.toNat
    let colorType ← ColorType.ofCode? colorType.toNat
    guard (0 < width ∧ 0 < height ∧ colorType.allows depth ∧ interlace ≤ 1)
    return ⟨width, height, depth, colorType, interlace = 1⟩
  | _ => none

/-- The number of bits of a pixel. -/
def bitsPerPixel (h : Header) : Nat := h.depth.bits * h.colorType.samples

/-- The number of bytes of a row of pixels. -/
def rowSize (h : Header) (width : Nat) : Nat := (width * h.bitsPerPixel + 7) / 8

/-- The number of bytes of all rows of pixels. -/
def size (h : Header) : Nat := h.rowSize h.width * h.height

/-- The number of bytes of the longest row that is read. -/
def maxRowSize : Nat := 1 <<< 26

end Header

end Raster.Png
