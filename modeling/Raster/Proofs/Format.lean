import Raster.Bmp.Image
import Mathlib

/-!
# The format by offsets

What a bitmap file says, as a function of its bytes: every field of the two headers, the masks, the
color table and the pixel array stand at an offset that the format fixes or that earlier fields
give.  `Accepts` lists the conditions under which some bytes are a bitmap file, and `Shows` is the
color that the format assigns to a pixel.  Nothing here goes through the reader: a field of bytes
that are too short for it is whatever the bytes that are present amount to, and it is for `Accepts`
to ask that all bytes are there.
-/

namespace Raster.Bmp.Format

open LittleEndian

/-- The `count` bytes from an offset on. -/
def slice (data : Bytes) (offset count : Nat) : Bytes := (data.drop offset).take count

lemma length_slice {data : Bytes} {offset count : Nat} (h : offset + count ≤ data.length) :
    (slice data offset count).length = count := by
  simp only [slice, List.length_take, List.length_drop]
  omega

/-- A slice within a slice. -/
lemma slice_slice {data : Bytes} {offset count offset' count' : Nat}
    (h : offset' + count' ≤ count) :
    slice (slice data offset count) offset' count' = slice data (offset + offset') count' := by
  simp only [slice, List.drop_take, List.take_take, List.drop_drop]
  rw [Nat.min_eq_left (by omega)]

/-- A field is the value of its bytes, wherever they stand. -/
lemma u16At_congr {data data' : Bytes} {offset offset' : Nat}
    (h : slice data' offset' 2 = slice data offset 2) : u16At data' offset' = u16At data offset :=
  congrArg (fun bytes => UInt16.ofNat (decode bytes)) h

lemma u32At_congr {data data' : Bytes} {offset offset' : Nat}
    (h : slice data' offset' 4 = slice data offset 4) : u32At data' offset' = u32At data offset :=
  congrArg (fun bytes => UInt32.ofNat (decode bytes)) h

lemma u16At_slice {data : Bytes} {offset count k : Nat} (h : k + 2 ≤ count) :
    u16At (slice data offset count) k = u16At data (offset + k) :=
  u16At_congr (slice_slice h)

lemma u32At_slice {data : Bytes} {offset count k : Nat} (h : k + 4 ≤ count) :
    u32At (slice data offset count) k = u32At data (offset + k) :=
  u32At_congr (slice_slice h)

variable (data : Bytes)

/-! ## Fields -/

/-- The declared size of the file. -/
def fileSize : Nat := (u32At data 2).toNat

/-- Where the pixel array starts. -/
def pixelOffset : Nat := (u32At data 10).toNat

/-- The number of bytes of the info header. -/
def headerSize : Nat := (u32At data 14).toNat

def width : ℤ := (u32At data 18).toInt32.toInt

/-- The height, negative if the top row is stored first. -/
def height : ℤ := (u32At data 22).toInt32.toInt

def planes : Nat := (u16At data 26).toNat

/-- The number of bits of a pixel. -/
def depth : Nat := (u16At data 28).toNat

/-- The code of the compression scheme. -/
def scheme : Nat := (u32At data 30).toNat

def colorsUsed : Nat := (u32At data 46).toNat

/-- The number of columns of the picture. -/
def columns : Nat := (width data).natAbs

/-- The number of rows of the picture. -/
def rows : Nat := (height data).natAbs

/-- The number of bytes of a stored row, a multiple of four. -/
def stride : Nat := 4 * ((columns data * depth data) ⌈/⌉ 32)

/-! ## Masks, color table, pixel array -/

/-- A mask for the alpha channel is stored with those of the colors. -/
def StoresAlpha : Prop := 56 ≤ headerSize data ∨ headerSize data = 40 ∧ scheme data = 6

instance : Decidable (StoresAlpha data) := inferInstanceAs (Decidable (_ ∨ _))

/-- Where the stored masks end. -/
def masksEnd : Nat := if StoresAlpha data then 70 else 66

/-- The masks of the channels: stored ones from byte 54 on if the compression scheme says so, and
those that the depth implies otherwise. -/
def masks : ChannelMasks :=
  if scheme data = 0 then .standard (depth data)
  else ⟨u32At data 54, u32At data 58, u32At data 62,
    if StoresAlpha data then u32At data 66 else 0⟩

/-- The number of entries of the color table. -/
def tableSize : Nat := if colorsUsed data = 0 then 2 ^ depth data else colorsUsed data

/-- The number of bytes of the color table, which pixels of more than 8 bits do not have. -/
def tableBytes : Nat := if depth data ≤ 8 then 4 * tableSize data else 0

/-- Where headers, masks and color table end. -/
def headersEnd : Nat :=
  if scheme data = 0 then 14 + headerSize data + tableBytes data
  else max (14 + headerSize data) (masksEnd data)

/-- The number of bytes of the pixel array. -/
def pixelBytes : Nat := stride data * rows data

/-- A number whose bits are one run, or none, below the bit of position `bits`. -/
def IsRunBelow (bits m : Nat) : Prop := ∃ b s, s + b ≤ bits ∧ m = (2 ^ b - 1) * 2 ^ s

/-- The bytes are a bitmap file. -/
structure Accepts : Prop where
  signature : data.take 2 = [0x42, 0x4d]
  fileSize_le : fileSize data ≤ data.length
  headerSize_mem : headerSize data ∈ [40, 52, 56, 108, 124]
  header_le : 14 + headerSize data ≤ data.length
  width_pos : 0 < width data
  height_ne : height data ≠ 0
  planes_eq : planes data = 1
  depth_mem : depth data ∈ [1, 4, 8, 16, 24, 32]
  scheme_eq : scheme data = 0 ∨
    (scheme data = 3 ∨ scheme data = 6) ∧ (depth data = 16 ∨ depth data = 32)
  -- masks, for compression schemes other than 0
  masks_le : scheme data ≠ 0 → masksEnd data ≤ data.length
  masks_run : scheme data ≠ 0 →
    ∀ c, IsRunBelow (depth data) ((masks data).get c).toNat
  -- color table, for pixels of up to 8 bits
  colors_le : depth data ≤ 8 → colorsUsed data ≤ 2 ^ depth data
  table_le : depth data ≤ 8 → 14 + headerSize data + 4 * tableSize data ≤ data.length
  headersEnd_le : headersEnd data ≤ pixelOffset data
  pixels_le : pixelOffset data + pixelBytes data ≤ data.length

/-- An image has the headers, the masks, the color table and the pixel array of a file. -/
structure Describes (i : Image) : Prop where
  fileHeader : i.fileHeader.toBytes = slice data 0 14
  infoHeader : i.infoHeader.toBytes = slice data 14 40
  depth_eq : i.depth.bits = depth data
  masks_eq : i.masks = masks data
  colorTable : i.colorTable.toBytes = slice data (14 + headerSize data) (tableBytes data)
  pixelData : i.pixelData = slice data (pixelOffset data) (pixelBytes data)
  stride_eq : i.stride = stride data

/-! ## Pixels -/

/-- Where the stored row starts that is row `y` of the picture, counted from the top. -/
def rowStart (y : Nat) : Nat :=
  pixelOffset data + (if height data < 0 then y else rows data - 1 - y) * stride data

/-- The bits of some bytes, the most significant bit of each byte first. -/
def bitsOf (bytes : Bytes) : List Bool :=
  bytes.flatMap fun b => (List.range 8).map fun j => b.toNat.testBit (7 - j)

/-- The number with the given bits, the most significant one first. -/
def numberOf (bits : List Bool) : Nat := bits.foldl (fun n b => 2 * n + b.toNat) 0

/-- The index that a pixel of up to 8 bits holds. -/
def indexAt (x y : Nat) : Nat :=
  numberOf (((bitsOf (slice data (rowStart data y) (stride data))).drop (x * depth data)).take
    (depth data))

/-- The number that a pixel of 16 or 32 bits holds. -/
def wordAt (x y : Nat) : Nat :=
  decode (slice data (rowStart data y + x * depth data / 8) (depth data / 8))

/-- The level of a channel in a pixel: the value `v` of the `b` bits that the mask selects, scaled
to the nearest integer to `255 * v / (2 ^ b - 1)`, or a given level if there is no such channel. -/
def Level (m : Mask) (absent : UInt8) (pixel : Nat) (level : UInt8) : Prop :=
  m = 0 ∧ level = absent ∨
    ∃ b s, 0 < b ∧ m.toNat = (2 ^ b - 1) * 2 ^ s ∧
      (level.toNat : ℤ) = round ((255 * (pixel / 2 ^ s % 2 ^ b : ℕ) : ℚ) / (2 ^ b - 1 : ℕ))

/-- The format gives the pixel in column `x` and row `y` this color. -/
def Shows (x y : Nat) (c : Color) : Prop :=
  if depth data ≤ 8 then
    indexAt data x y < tableSize data ∧ c.alpha = 0xff ∧
      ∃ reserved, slice data (14 + headerSize data + 4 * indexAt data x y) 4
        = [c.blue, c.green, c.red, reserved]
  else if depth data = 24 then
    slice data (rowStart data y + 3 * x) 3 = [c.blue, c.green, c.red] ∧ c.alpha = 0xff
  else
    Level (masks data).red 0 (wordAt data x y) c.red ∧
    Level (masks data).green 0 (wordAt data x y) c.green ∧
    Level (masks data).blue 0 (wordAt data x y) c.blue ∧
    Level (masks data).alpha 0xff (wordAt data x y) c.alpha

end Raster.Bmp.Format
