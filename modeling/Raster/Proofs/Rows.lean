import Raster.Bmp.Colors
import Raster.Proofs.Blocks
import Raster.Proofs.Masks
import Mathlib

/-!
# Rows and the numbers of their pixels

Which bytes of the pixel array make up a row of the picture, and which number a pixel of the row
holds.  Indices of up to 8 bits are runs of bits of the row, counted from the most significant bit
of its first byte (`getElem?_cells_of_le`), larger pixels are words of the row
(`getElem?_cells_of_lt`); in both cases a row has a number for each of its pixels
(`length_cells`).
-/

namespace Raster.Bmp

open LittleEndian Format

/-! ## Bits -/

namespace Format

lemma numberOf_append_singleton (bits : List Bool) (b : Bool) :
    numberOf (bits ++ [b]) = 2 * numberOf bits + b.toNat := by
  simp [numberOf]

/-- A number is less than the power of two that its bits have room for. -/
lemma numberOf_lt (bits : List Bool) : numberOf bits < 2 ^ bits.length := by
  induction bits using List.reverseRecOn with
  | nil => simp [numberOf]
  | append_singleton bits b ih =>
    rw [numberOf_append_singleton, List.length_append, List.length_singleton, Nat.pow_succ]
    have hb : b.toNat ≤ 1 := Bool.toNat_le b
    omega

/-- The number that `n` bits of a byte make up, from the bit of position `a` on. -/
lemma numberOf_testBit (v a n : Nat) (h : a + n ≤ 8) :
    numberOf ((List.range' a n).map fun j => v.testBit (7 - j)) = v / 2 ^ (8 - a - n) % 2 ^ n := by
  induction n with
  | zero => simp [numberOf, Nat.mod_one]
  | succ n ih =>
    have hlow : 8 - a - (n + 1) = 7 - (a + n) := by omega
    have hhigh : 8 - a - n = 7 - (a + n) + 1 := by omega
    -- the last bit is the lowest one, the bits before it are the number above it
    rw [List.range'_1_concat, List.map_append, List.map_singleton, numberOf_append_singleton,
      ih (by omega), Nat.toNat_testBit, hlow, hhigh, Nat.pow_succ, ← Nat.div_div_eq_div_mul,
      Nat.pow_succ', Nat.mod_mul, Nat.add_comm]

lemma length_bits (b : UInt8) :
    ((List.range 8).map fun j => b.toNat.testBit (7 - j)).length = 8 := by simp

/-- Some bits in a row are bits of one byte of it. -/
lemma take_drop_bitsOf {row : Bytes} {q r n : Nat} {b : UInt8} (hb : row[q]? = some b)
    (h : r + n ≤ 8) :
    ((bitsOf row).drop (q * 8 + r)).take n =
      (List.range' r n).map fun j => b.toNat.testBit (7 - j) := by
  have hsplit : List.range 8 =
      List.range' 0 r ++ (List.range' r n ++ List.range' (r + n) (8 - r - n)) := by
    have hfront := List.range'_append_1 (s := 0) (m := r) (n := n + (8 - r - n))
    rw [Nat.zero_add] at hfront
    rw [List.range'_append_1, hfront, List.range_eq_range']
    congr 1
    omega
  rw [← List.drop_drop, bitsOf, drop_blocks_eq (fun c _ => length_bits c) hb, hsplit,
    List.map_append, List.map_append, List.append_assoc, List.append_assoc,
    List.drop_left' (by simp), List.take_left' (by simp)]

end Format

/-! ## Cells -/

namespace Depth

variable {d : Depth} {width : Nat} {row : Bytes} {x : Nat}

lemma perByte_mul_bits (h : d.bits ≤ 8) : 8 / d.bits * d.bits = 8 := by
  cases d <;> first | rfl | exact absurd h (by decide)

lemma length_unpack (d : Depth) (b : UInt8) : (d.unpack b).length = 8 / d.bits := by
  simp [unpack]

lemma getElem?_unpack {r : Nat} (hr : r < 8 / d.bits) (b : UInt8) :
    (d.unpack b)[r]? = some (b.toNat / 2 ^ (8 - d.bits * (r + 1)) % 2 ^ d.bits) := by
  rw [unpack, List.getElem?_map, List.getElem?_range hr, Option.map_some, Nat.shiftRight_eq_div_pow,
    colors_eq]

/-- The byte of a row that holds a pixel is within the row. -/
lemma div_lt_stride (h : d.bits ≤ 8) (hx : x < width) : x / (8 / d.bits) < d.stride width := by
  have hper := perByte_mul_bits h
  have hpos := d.bits_pos
  have hle := d.bits_le_stride width
  have hlt : x * d.bits < width * d.bits := Nat.mul_lt_mul_of_pos_right hx hpos
  have hq : x / (8 / d.bits) * (8 / d.bits) ≤ x := Nat.div_mul_le_self _ _
  have hq8 : x / (8 / d.bits) * 8 ≤ x * d.bits := by
    calc x / (8 / d.bits) * 8 = x / (8 / d.bits) * (8 / d.bits) * d.bits := by
          rw [Nat.mul_assoc, hper]
      _ ≤ x * d.bits := Nat.mul_le_mul_right _ hq
  omega

/-- A pixel of up to 8 bits holds a number within one byte of its row. -/
lemma getElem?_cells_byte (h : d.bits ≤ 8) (hx : x < width) {b : UInt8}
    (hb : row[x / (8 / d.bits)]? = some b) :
    (d.cells width row)[x]? =
      some (b.toNat / 2 ^ (8 - d.bits * (x % (8 / d.bits) + 1)) % 2 ^ d.bits) := by
  have hr := Nat.mod_lt x (Nat.div_pos h d.bits_pos)
  have hcell := getElem?_blocks (fun b _ => length_unpack d b) hb hr
  rw [Nat.div_add_mod' x, getElem?_unpack hr] at hcell
  rw [cells, if_pos (isIndexed_iff.2 h), List.getElem?_take_of_lt hx, hcell]

/-- The bits of a pixel end within its byte. -/
lemma bits_mul_le (h : d.bits ≤ 8) (x : Nat) : d.bits * (x % (8 / d.bits) + 1) ≤ 8 := by
  have hr := Nat.mod_lt x (Nat.div_pos h d.bits_pos)
  calc d.bits * (x % (8 / d.bits) + 1) ≤ d.bits * (8 / d.bits) := Nat.mul_le_mul_left _ hr
    _ = 8 := by rw [Nat.mul_comm, perByte_mul_bits h]

/-- A pixel of up to 8 bits holds the number that its bits make up. -/
lemma getElem?_cells_of_le (h : d.bits ≤ 8) (hrow : row.length = d.stride width) (hx : x < width) :
    (d.cells width row)[x]? =
      some (numberOf (((bitsOf row).drop (x * d.bits)).take d.bits)) := by
  have hbyte : x / (8 / d.bits) < row.length := hrow ▸ div_lt_stride h hx
  have hsplit : x / (8 / d.bits) * (8 / d.bits) + x % (8 / d.bits) = x := Nat.div_add_mod' x _
  -- whole bytes come before the pixel, and then the pixels before it in its byte
  have hbit : x * d.bits = x / (8 / d.bits) * 8 + x % (8 / d.bits) * d.bits := by
    conv_lhs => rw [← hsplit, Nat.add_mul, Nat.mul_assoc, perByte_mul_bits h]
  have hend : x % (8 / d.bits) * d.bits + d.bits ≤ 8 := by
    have hle := bits_mul_le h x
    rwa [Nat.mul_comm, Nat.succ_mul] at hle
  have hget := List.getElem?_eq_getElem hbyte
  rw [getElem?_cells_byte h hx hget, hbit, take_drop_bitsOf hget hend, numberOf_testBit _ _ _ hend]
  congr 4
  rw [Nat.mul_add, Nat.mul_one, Nat.mul_comm d.bits]
  omega

/-- A pixel of more than 8 bits holds a word of the row. -/
lemma getElem?_cells_of_lt (h : 8 < d.bits) (row : Bytes) (hx : x < width) :
    (d.cells width row)[x]? = some (decode (slice row (x * (d.bits / 8)) (d.bits / 8))) := by
  rw [cells, if_neg (mt isIndexed_iff.1 (by omega)), List.getElem?_map, getElem?_pieces hx]
  rfl

/-- The pixels of more than 8 bits are whole bytes of the row. -/
lemma bytes_le_stride (h : 8 < d.bits) (width : Nat) : width * (d.bits / 8) ≤ d.stride width := by
  have hfit := d.bits_le_stride width
  have hbits : d.bits = 8 * (d.bits / 8) := by
    cases d <;> first | rfl | exact absurd h (by decide)
  rw [hbits, Nat.mul_left_comm] at hfit
  exact Nat.le_of_mul_le_mul_left hfit (by norm_num)

lemma stride_pos (d : Depth) (h : 0 < width) : 0 < d.stride width := by
  have hfit := d.bits_le_stride width
  have hpos := Nat.mul_pos h d.bits_pos
  omega

/-- A row holds a number for each of its pixels. -/
lemma length_cells (hrow : row.length = d.stride width) : (d.cells width row).length = width := by
  rw [cells]
  split
  · next h =>
    have hle := isIndexed_iff.1 h
    have hper := perByte_mul_bits hle
    rw [List.length_take, length_blocks fun b _ => length_unpack d b, hrow]
    apply Nat.min_eq_left
    have hbits := d.bits_le_stride width
    by_contra hlt
    have hmul : (d.stride width * (8 / d.bits) + 1) * d.bits ≤ width * d.bits :=
      Nat.mul_le_mul_right _ (by omega)
    rw [Nat.add_mul, Nat.mul_assoc, hper] at hmul
    have hpos := d.bits_pos
    omega
  · simp

end Depth

/-! ## Rows -/

namespace Image

variable {i : Image} {y : Nat}

/-- The number of the stored row that is row `y` of the picture. -/
def storedIndex (i : Image) (y : Nat) : Nat := if i.topDown then y else i.height - 1 - y

lemma storedIndex_lt (hy : y < i.height) : i.storedIndex y < i.height := by
  rw [storedIndex]
  split <;> omega

lemma getElem?_rows (hy : y < i.height) :
    i.rows[y]? = some (slice i.pixelData (i.storedIndex y * i.stride) i.stride) := by
  have hstored : i.storedRows[i.storedIndex y]? =
      some (slice i.pixelData (i.storedIndex y * i.stride) i.stride) :=
    getElem?_pieces (storedIndex_lt hy)
  rw [← hstored, rows, storedIndex]
  by_cases h : i.topDown = true
  · rw [if_pos h, if_pos h]
  · rw [if_neg h, if_neg h, List.getElem?_reverse (by simpa using hy), length_storedRows]

/-- Every row is within a whole pixel array. -/
lemma storedIndex_end (hdata : i.pixelData.length = i.stride * i.height) (hy : y < i.height) :
    i.storedIndex y * i.stride + i.stride ≤ i.pixelData.length := by
  rw [← Nat.succ_mul, hdata, Nat.mul_comm i.stride]
  exact Nat.mul_le_mul_right _ (storedIndex_lt hy)

/-- Every row of a whole pixel array is whole. -/
lemma length_row (hdata : i.pixelData.length = i.stride * i.height) {row : Bytes}
    (hrow : row ∈ i.rows) : row.length = i.stride := by
  have hmem : row ∈ i.storedRows := by
    rw [rows] at hrow
    split at hrow
    · exact hrow
    · exact List.mem_reverse.1 hrow
  exact length_of_mem_pieces (by rw [hdata, Nat.mul_comm]) hmem

/-- The number in column `x` and row `y` of the picture. -/
lemma getElem?_cells (hdata : i.pixelData.length = i.stride * i.height) {x : Nat}
    (hx : x < i.width) (hy : y < i.height) :
    i.cells[y * i.width + x]? = (i.depth.cells i.width
      (slice i.pixelData (i.storedIndex y * i.stride) i.stride))[x]? :=
  getElem?_blocks (fun _ hrow => Depth.length_cells (length_row hdata hrow)) (getElem?_rows hy) hx

lemma length_imageCells (hdata : i.pixelData.length = i.stride * i.height) :
    i.cells.length = i.height * i.width := by
  rw [cells, length_blocks fun _ hrow => Depth.length_cells (length_row hdata hrow), length_rows]

end Image

end Raster.Bmp
