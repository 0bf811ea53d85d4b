import Raster.Proofs.GuardedPicture
import Mathlib

/-!
# Sizes in words of 64 bits

The bytes of a row, of the pixel array and of the picture are counted in words of 64 bits, in which
a sum or a product that is too large wraps around.  One of the products is checked for that; the
other operations are not, and neither is the sum that bounds the pixel array.  `Words.pixelArray?`
and `Words.pictureSize` compute the sizes in this way.

No operation ever wraps (`Words.sizes_exact`), but the room is narrow: the longest row has
`2 ^ 33 - 4` bytes, there can be `2 ^ 31` of them, and they can start at place `2 ^ 32 - 1`, which
leaves `2 ^ 32` to the largest word.  So what has to be bounded is the product as a whole, and with
the one row of pixels fewer that a signed width allows.

That a word is the number that it should be is written `Holds`, and is carried from one operation to
the next by a lemma for each of them.
-/

namespace Raster.Words

open Bmp

/-! ## Operations -/

/-- The word is the number. -/
structure Holds (w : UInt64) (n : Nat) : Prop where
  lt : n < 2 ^ 64
  toNat_eq : w.toNat = n

/-- A signed word without its sign.  The lowest one has no opposite, but its bits are those of its
magnitude. -/
def magnitude (v : Int32) : UInt32 := v.abs.toUInt32

/-- The product of two words, if it is a word. -/
def product? (a b : UInt64) : Option UInt64 :=
  if a.toNat * b.toNat < 2 ^ 64 then some (a * b) else none

namespace Holds

variable {a b : UInt64} {m n : Nat}

lemma add (ha : Holds a m) (hb : Holds b n) (h : m + n < 2 ^ 64) : Holds (a + b) (m + n) := by
  refine ⟨h, ?_⟩
  rw [UInt64.toNat_add, ha.toNat_eq, hb.toNat_eq, Nat.mod_eq_of_lt h]

lemma mul (ha : Holds a m) (hb : Holds b n) (h : m * n < 2 ^ 64) : Holds (a * b) (m * n) := by
  refine ⟨h, ?_⟩
  rw [UInt64.toNat_mul, ha.toNat_eq, hb.toNat_eq, Nat.mod_eq_of_lt h]

lemma div (ha : Holds a m) (hb : Holds b n) : Holds (a / b) (m / n) := by
  refine ⟨(Nat.div_le_self m n).trans_lt ha.lt, ?_⟩
  rw [UInt64.toNat_div, ha.toNat_eq, hb.toNat_eq]

lemma product?_eq (ha : Holds a m) (hb : Holds b n) (h : m * n < 2 ^ 64) :
    product? a b = some (a * b) := by
  rw [← ha.toNat_eq, ← hb.toNat_eq] at h
  exact if_pos h

lemma le_iff (ha : Holds a m) (hb : Holds b n) : a ≤ b ↔ m ≤ n := by
  rw [UInt64.le_iff_toNat_le, ha.toNat_eq, hb.toNat_eq]

lemma eq_iff (ha : Holds a m) (hb : Holds b n) : a = b ↔ m = n := by
  rw [← UInt64.toNat_inj, ha.toNat_eq, hb.toNat_eq]

end Holds

lemma holds_toNat (w : UInt64) : Holds w w.toNat := ⟨w.toNat_lt, rfl⟩

lemma holds_ofNat {n : Nat} (h : n < 2 ^ 64) : Holds (.ofNat n) n :=
  ⟨h, UInt64.toNat_ofNat_of_lt' h⟩

lemma holds_toUInt64 (w : UInt32) : Holds w.toUInt64 w.toNat :=
  ⟨w.toNat_lt.trans (by norm_num), w.toNat_toUInt64⟩

lemma toNat_magnitude (v : Int32) : (magnitude v).toNat = v.toInt.natAbs := by
  have hlt := v.toBitVec.isLt
  have hbits : (magnitude v).toNat = v.toBitVec.abs.toNat := by
    rw [← Int32.toBitVec_abs]
    rfl
  have hint : v.toInt = v.toBitVec.toInt := rfl
  rw [hbits, hint, BitVec.toNat_abs, BitVec.toInt_eq_msb_cond]
  split <;> omega

lemma holds_magnitude (v : Int32) : Holds (magnitude v).toUInt64 v.toInt.natAbs := by
  rw [← toNat_magnitude]
  exact holds_toUInt64 _

/-! ## Sizes -/

/-- The bits of a row, with what is added to them to round up. -/
def paddedBits (width : Int32) (bits : UInt16) : UInt64 :=
  (magnitude width).toUInt64 * bits.toUInt64 + 31

/-- The bytes of a row. -/
def stride (width : Int32) (bits : UInt16) : UInt64 := paddedBits width bits / 32 * 4

/-- The bytes of the pixel array. -/
def arraySize? (width height : Int32) (bits : UInt16) : Option UInt64 :=
  product? (stride width bits) (magnitude height).toUInt64

/-- The pixel array ends within data of some length. -/
def Present (offset : UInt32) (size length : UInt64) : Prop := offset.toUInt64 + size ≤ length

instance (offset : UInt32) (size length : UInt64) : Decidable (Present offset size length) :=
  inferInstanceAs (Decidable (_ ≤ _))

/-- The pixel array of an image.  There is no outcome if the checked product is too large. -/
def pixelArray? (data : Bytes) (offset : UInt32) (headersEnd : Nat) (info : InfoHeader) :
    Option (Except Error Bytes) :=
  if headersEnd ≤ offset.toNat then
    (arraySize? info.width info.height info.bitsPerPixel).map fun size => do
      require (Present offset size (.ofNat data.length))
        (.missingPixels size.toNat offset.toNat data.length)
      return (data.drop offset.toNat).take size.toNat
  else some (.error (.overlappingHeaders offset.toNat headersEnd))

/-- The bytes of a picture. -/
def pictureSize (width height : UInt32) : UInt64 := width.toUInt64 * height.toUInt64 * 4

/-- The bytes of a row, as a number. -/
def rowBytes (width : Int32) (bits : UInt16) : Nat :=
  4 * ((width.toInt.natAbs * bits.toNat) ⌈/⌉ 32)

/-- The bytes of the pixel array, as a number. -/
def arrayBytes (width height : Int32) (bits : UInt16) : Nat :=
  rowBytes width bits * height.toInt.natAbs

/-- The sizes of a pixel array are computed as on numbers, and so is its bound decided. -/
structure ExactArray (width height : Int32) (bits : UInt16) (offset : UInt32) : Prop where
  paddedBits_holds : Holds (paddedBits width bits) (width.toInt.natAbs * bits.toNat + 31)
  stride_holds : Holds (stride width bits) (rowBytes width bits)
  /-- The checked product is a word, and so is the end of the pixel array. -/
  arraySize_holds : ∃ size, arraySize? width height bits = some size ∧
    Holds size (arrayBytes width height bits) ∧
    Holds (offset.toUInt64 + size) (offset.toNat + arrayBytes width height bits) ∧
    ∀ length : UInt64, Present offset size length ↔
      (offset.toNat : ℤ) + rowBytes width bits * |height.toInt| ≤ length.toNat

/-- The size of the picture of an image is computed as on numbers, and is what decoding appends row
by row. -/
structure ExactPicture (i : Image) : Prop where
  area_holds : Holds
    ((magnitude i.infoHeader.width).toUInt64 * (magnitude i.infoHeader.height).toUInt64)
    (i.width * i.height)
  pictureSize_holds : Holds
    (pictureSize (magnitude i.infoHeader.width) (magnitude i.infoHeader.height))
    (i.width * i.height * 4)
  length_appended : ∀ n ≤ i.height, ∀ rows, (List.range n).mapM (Machine.rowColors i) = .ok rows →
    (rows.flatten.flatMap Color.toBytes).length = i.width * n * 4
  /-- The check of the number of bytes of a bitmap. -/
  length_eq_iff : ∀ pixels : Bytes, pixels.length < 2 ^ 64 →
    (UInt64.ofNat pixels.length =
        pictureSize (magnitude i.infoHeader.width) (magnitude i.infoHeader.height) ↔
      pixels.length = i.width * i.height * 4)

/-! ## The pixel array -/

variable {width height : Int32} {bits : UInt16} {d : Depth}

lemma rowBytes_eq (hd : d.bits = bits.toNat) :
    rowBytes width bits = d.stride width.toInt.natAbs := by
  rw [rowBytes, Depth.stride, hd, Nat.ceilDiv_eq_add_pred_div, Nat.mul_comm]
  rfl

/-- The last byte of the pixel array has a place that is a word. -/
lemma last_lt (hd : d.bits = bits.toNat) (hwidth : 0 < width) (height : Int32) (offset : UInt32) :
    offset.toNat + arrayBytes width height bits < 2 ^ 64 := by
  rw [arrayBytes, rowBytes_eq hd]
  exact Machine.pixelBytes_lt d offset.toNat_lt (Machine.natAbs_lt hwidth)
    (Machine.natAbs_le height)

lemma holds_paddedBits (hd : d.bits = bits.toNat) (hwidth : 0 < width) :
    Holds (paddedBits width bits) (width.toInt.natAbs * bits.toNat + 31) := by
  have hcolumns := Machine.natAbs_lt hwidth
  have h32 := Machine.bits_le d
  have hle : width.toInt.natAbs * bits.toNat ≤ width.toInt.natAbs * 32 :=
    Nat.mul_le_mul_left _ (hd ▸ h32)
  have hword : Holds bits.toUInt64 bits.toNat := ⟨by omega, bits.toNat_toUInt64⟩
  have hproduct := (holds_magnitude width).mul hword (by omega)
  exact hproduct.add (holds_ofNat (by norm_num)) (by omega)

lemma holds_stride (hd : d.bits = bits.toNat) (hwidth : 0 < width) :
    Holds (stride width bits) (rowBytes width bits) := by
  have hcolumns := Machine.natAbs_lt hwidth
  have hrow := Machine.stride_le d width.toInt.natAbs
  have hquotient := (holds_paddedBits hd hwidth).div (holds_ofNat (n := 32) (by norm_num))
  rw [← hd] at hquotient
  rw [rowBytes_eq hd]
  rw [Depth.stride] at hrow ⊢
  exact hquotient.mul (holds_ofNat (by norm_num)) (by omega)

/-- The checked product is a word. -/
lemma exists_arraySize (hd : d.bits = bits.toNat) (hwidth : 0 < width) (height : Int32) :
    ∃ size, arraySize? width height bits = some size ∧
      Holds size (arrayBytes width height bits) := by
  have hlt : arrayBytes width height bits < 2 ^ 64 :=
    (Nat.le_add_left _ _).trans_lt (last_lt hd hwidth height 0)
  have hrow := holds_stride hd hwidth
  have hrows := holds_magnitude height
  exact ⟨_, hrow.product?_eq hrows hlt, hrow.mul hrows hlt⟩

lemma exactArray (hd : d.bits = bits.toNat) (hwidth : 0 < width) (height : Int32)
    (offset : UInt32) : ExactArray width height bits offset := by
  obtain ⟨size, hsize, hholds⟩ := exists_arraySize hd hwidth height
  have hlast := (holds_toUInt64 offset).add hholds (last_lt hd hwidth height offset)
  refine ⟨holds_paddedBits hd hwidth, holds_stride hd hwidth, size, hsize, hholds, hlast, ?_⟩
  intro length
  rw [Present, hlast.le_iff (holds_toNat length), ← Int.natCast_natAbs, arrayBytes]
  norm_cast

/-- The sizes in words give the pixel array that the sizes as numbers give. -/
lemma pixelArray?_eq {data : Bytes} {info : InfoHeader} (hdata : data.length < 2 ^ 64)
    (hdepth : info.depth = .ok d) (offset : UInt32) (headersEnd : Nat) :
    pixelArray? data offset headersEnd info =
      some (pixelArray data offset.toNat headersEnd (d.stride info.columns * info.rows)) := by
  obtain ⟨hwidth, -, hd⟩ := Machine.depth_eq_ok hdepth
  obtain ⟨size, hsize, hholds⟩ := exists_arraySize hd hwidth info.height
  have hlast := (holds_toUInt64 offset).add hholds (last_lt hd hwidth info.height offset)
  have hbytes : arrayBytes info.width info.height info.bitsPerPixel =
      d.stride info.columns * info.rows := by
    rw [arrayBytes, rowBytes_eq hd]
    rfl
  rw [hbytes] at hholds hlast
  rw [pixelArray?, pixelArray]
  by_cases hend : headersEnd ≤ offset.toNat
  · have hpresent := hlast.le_iff (holds_ofNat hdata)
    rw [if_pos hend, hsize, require_bind hend, Option.map_some, hholds.toNat_eq]
    exact congrArg some (require_bind_congr hpresent fun _ => rfl)
  · rw [if_neg hend, require_bind_of_not hend]

/-! ## The picture -/

/-- A row that gets its colors gets one for each pixel. -/
lemma length_rowColors {i : Image} (h : Machine.Parsed i) {y : Nat} (hy : y < i.height)
    {colors : List Color} (hcolors : Machine.rowColors i y = .ok colors) :
    colors.length = i.width := by
  have hin : y < i.rows.length := by rwa [i.length_rows]
  have hrow := List.getElem?_eq_getElem hin
  have hlength : i.rows[y].length = i.depth.stride i.width :=
    Image.length_row h.length_eq (List.getElem_mem hin)
  rw [Machine.rowColors_eq_refuse h hrow, Machine.refuse, mapError_eq_ok_iff, mapM_eq_ok_iff]
    at hcolors
  rw [← hcolors.length_eq, Depth.length_cells hlength]

/-- After some rows, the picture has the bytes of so many rows. -/
lemma length_appended {i : Image} (h : Machine.Parsed i) {n : Nat} (hn : n ≤ i.height)
    {rows : List (List Color)} (hrows : (List.range n).mapM (Machine.rowColors i) = .ok rows) :
    (rows.flatten.flatMap Color.toBytes).length = i.width * n * 4 := by
  rw [mapM_eq_ok_iff] at hrows
  have hrow : ∀ row ∈ rows, row.length = i.width := by
    intro row hmem
    obtain ⟨k, hk, rfl⟩ := List.getElem_of_mem hmem
    have hk' : k < (List.range n).length := hrows.length_eq ▸ hk
    have hcolors := hrows.get hk' hk
    rw [List.get_eq_getElem, List.getElem_range] at hcolors
    rw [List.length_range] at hk'
    exact length_rowColors h (hk'.trans_le hn) hcolors
  rw [length_blocks fun c _ => c.length_toBytes, ← List.flatMap_id, length_blocks (f := id) hrow,
    ← hrows.length_eq, List.length_range, Nat.mul_comm n]

lemma exactPicture {i : Image} (h : Machine.Parsed i) : ExactPicture i := by
  have hsize := Machine.area_lt h
  have harea := (holds_magnitude i.infoHeader.width).mul (holds_magnitude i.infoHeader.height)
    (show i.width * i.height < 2 ^ 64 by omega)
  have hbytes := harea.mul (holds_ofNat (n := 4) (by norm_num)) hsize
  refine ⟨harea, hbytes, ?_, ?_⟩
  · intro n hn rows hrows
    exact length_appended h hn hrows
  · intro pixels hpixels
    exact (holds_ofNat hpixels).eq_iff hbytes

/-- **Sizes are exact.**  For every width, height, depth and place of the pixel array that a header
can hold, the sizes in words are those on numbers: no operation wraps, the checked product is a
word, and the bound is the one on integers.  So the sizes in words give the pixel array that the
reader gives; and the size of the picture of every image that is read is the number of bytes that
its rows are appended to. -/
theorem sizes_exact :
    (∀ (width height : Int32) (bits : UInt16) (offset : UInt32), 0 < width →
      bits.toNat ∈ [1, 4, 8, 16, 24, 32] → ExactArray width height bits offset) ∧
    (∀ (data : Bytes) (offset : UInt32) (headersEnd : Nat) (info : InfoHeader) (d : Depth),
      data.length < 2 ^ 64 → info.depth = .ok d →
      pixelArray? data offset headersEnd info =
        some (pixelArray data offset.toNat headersEnd (d.stride info.columns * info.rows))) ∧
    ∀ (data : Bytes) (i : Image), (Image.read data).value = .ok i → ExactPicture i := by
  refine ⟨?_, ?_, ?_⟩
  · intro width height bits offset hwidth hbits
    obtain ⟨d, hd⟩ := Option.isSome_iff_exists.1 (Format.isSome_ofBits?_iff.2 hbits)
    exact exactArray (Depth.bits_of_ofBits? hd) hwidth height offset
  · intro data offset headersEnd info d hdata hd
    exact pixelArray?_eq hdata hd offset headersEnd
  · intro data i hread
    obtain ⟨haccepts, rfl⟩ := Image.read_eq_ok_iff.1 hread
    exact exactPicture (Machine.parsed_image haccepts)

/-- The largest pixel array, as far from the start of the file as it can be. -/
theorem sizes_exact_largest :
    (∃ size, arraySize? 2147483647 Int32.minValue 32 = some size ∧ size.toNat = 2 ^ 64 - 2 ^ 33 ∧
      ((0xffffffff : UInt32).toUInt64 + size).toNat = 2 ^ 64 - 2 ^ 32 - 1) ∧
    ExactPicture (Format.image Image.sample) := by
  obtain ⟨harray, -, hpicture⟩ := sizes_exact
  obtain ⟨size, hsize, hholds, hlast, -⟩ :=
    (harray 2147483647 Int32.minValue 32 0xffffffff (by decide) (by decide)).arraySize_holds
  have hbytes : arrayBytes 2147483647 Int32.minValue 32 = 2 ^ 64 - 2 ^ 33 := by decide
  refine ⟨⟨size, hsize, ?_, ?_⟩, hpicture Image.sample _ rfl⟩
  · rw [hholds.toNat_eq, hbytes]
  · rw [hlast.toNat_eq, hbytes]
    rfl

end Raster.Words
