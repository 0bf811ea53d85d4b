import Raster.Bytes.Pieces
import Raster.Bytes.LittleEndian

/-!
# Bit depths and rows

A pixel of a bitmap file takes 1, 4, 8, 16, 24 or 32 bits.  The depth settles how many bytes a
stored row has (`Depth.stride`) and which number each pixel of a row holds (`Depth.cells`): pixels
of up to 8 bits fill each byte from its most significant end, and larger pixels are little-endian
words.
-/

namespace Raster.Bmp

/-- How many bits a pixel takes. -/
inductive Depth where
  | one
  | four
  | eight
  | sixteen
  | twentyFour
  | thirtyTwo
deriving DecidableEq

namespace Depth

/-- The number of bits of a pixel. -/
def bits : Depth → Nat
  | one => 1
  | four => 4
  | eight => 8
  | sixteen => 16
  | twentyFour => 24
  | thirtyTwo => 32

/-- The depth with a given number of bits. -/
def ofBits? : Nat → Option Depth
  | 1 => some one
  | 4 => some four
  | 8 => some eight
  | 16 => some sixteen
  | 24 => some twentyFour
  | 32 => some thirtyTwo
  | _ => none

@[simp] theorem ofBits?_bits (d : Depth) : ofBits? d.bits = some d := by
  cases d <;> rfl

theorem bits_of_ofBits? {n : Nat} {d : Depth} (h : ofBits? n = some d) : d.bits = n := by
  unfold ofBits? at h
  split at h <;> simp_all [bits] <;> subst h <;> rfl

theorem bits_pos (d : Depth) : 0 < d.bits := by
  cases d <;> decide

/-- Whether the pixels of this depth are indices into a color table. -/
def isIndexed (d : Depth) : Bool := d.bits ≤ 8

theorem isIndexed_iff {d : Depth} : d.isIndexed = true ↔ d.bits ≤ 8 := decide_eq_true_iff

/-- The number of colors that an index of this depth can tell apart. -/
def colors (d : Depth) : Nat := 1 <<< d.bits

/-! ## Rows -/

/-- The number of bytes of a stored row: rows are padded to a multiple of four bytes. -/
def stride (d : Depth) (width : Nat) : Nat := (width * d.bits + 31) / 32 * 4

/-- The pixels of a row fit into its bytes. -/
theorem bits_le_stride (d : Depth) (width : Nat) : width * d.bits ≤ 8 * d.stride width := by
  unfold stride
  omega

/-- The pixels packed into one byte, the one in its most significant bits first. -/
def unpack (d : Depth) (b : UInt8) : List Nat :=
  (List.range (8 / d.bits)).map fun i => b.toNat >>> (8 - d.bits * (i + 1)) % d.colors

/-- The numbers that the first `width` pixels of a row hold, from left to right. -/
def cells (d : Depth) (width : Nat) (row : Bytes) : List Nat :=
  if d.isIndexed then (row.flatMap d.unpack).take width
  else (pieces width (d.bits / 8) row).map LittleEndian.decode

end Depth

end Raster.Bmp
