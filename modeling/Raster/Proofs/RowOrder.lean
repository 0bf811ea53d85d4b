import Raster.Proofs.Overwriting
import Raster.Proofs.PixelArray
import Mathlib

/-!
# The order of the rows

The sign of the height says in which order the rows are stored, and nothing else.  `Format.flipped`
is the file with the other sign and the rows in the other order; it holds the same rows, counted
from the top, and so has the same picture (`Image.read_flipped`).  As the colors are found row by
row from the top of the picture, and not in the order in which the rows are stored, an index without
a color is reported as the same one, too.

The height of `2 ^ 31` rows that are stored from the top has no counterpart, as a field of 32 bits
does not hold the positive number.
-/

namespace Raster

open LittleEndian Bmp Bmp.Format

namespace Bmp

lemma toInt_neg_of_ne {n : Int32} (h : n ≠ Int32.minValue) : (-n).toInt = -n.toInt := by
  have hne : n.toInt ≠ Int32.minValue.toInt := mt Int32.toInt_inj.1 h
  rw [Int32.toInt_minValue] at hne
  have hle := n.le_toInt
  have hlt := n.toInt_lt
  rw [Int32.toInt_neg, Int.bmod_eq_of_le (by omega) (by omega)]

/-! ## The file with the rows in the other order -/

namespace Format

variable {data : Bytes} {p count : Nat}

/-- The rows of the pixel array, as they are stored. -/
def storedRows (data : Bytes) : List Bytes :=
  pieces (rows data) (stride data) (slice data (pixelOffset data) (pixelBytes data))

/-- The height with the other sign. -/
def flippedHeight (data : Bytes) : Int32 := -(u32At data 22).toInt32

/-- The file with the other sign of the height, and with its rows stored in the other order. -/
def flipped (data : Bytes) : Bytes :=
  overwrite (setWord data 22 (flippedHeight data).toUInt32) (pixelOffset data)
    (storedRows data).reverse.flatten

section

variable (h : Accepts data)

include h

lemma storedRows_image : (image data).storedRows = storedRows data := by
  rw [Image.storedRows, stride_image h, height_image]
  rfl

lemma length_of_mem_storedRows : ∀ row ∈ storedRows data, row.length = stride data := by
  intro row hrow
  have hlength := length_slice h.pixels_le
  refine length_of_mem_pieces ?_ hrow
  rw [hlength, pixelBytes, Nat.mul_comm]

lemma length_of_mem_reverse : ∀ row ∈ (storedRows data).reverse, row.length = stride data :=
  fun row hrow => length_of_mem_storedRows h row (List.mem_reverse.1 hrow)

/-- The rows take up the whole pixel array, in either order. -/
lemma length_flatten_reverse : (storedRows data).reverse.flatten.length = pixelBytes data := by
  have hblocks := length_blocks (f := id) (length_of_mem_reverse h)
  rw [List.flatMap_id] at hblocks
  rw [hblocks, List.length_reverse, storedRows, length_pieces, pixelBytes, Nat.mul_comm]

/-! ### What is in it -/

lemma le_pixelOffset : 54 ≤ pixelOffset data := h.fields_le.trans h.headersEnd_le

lemma length_setWord_height {w : UInt32} : (setWord data 22 w).length = data.length := by
  have hoffset := le_pixelOffset h
  have hpixels := h.pixels_le
  exact length_setWord (by omega)

/-- The rows in the other order fit where they are written. -/
lemma fits_reverse {w : UInt32} :
    pixelOffset data + (storedRows data).reverse.flatten.length ≤ (setWord data 22 w).length := by
  rw [length_setWord_height h, length_flatten_reverse h]
  exact h.pixels_le

lemma length_flipped : (flipped data).length = data.length := by
  rw [flipped, length_overwrite (fits_reverse h), length_setWord_height h]

/-- What comes before the pixel array stays, but for the height. -/
lemma slice_flipped (hp : p + count ≤ pixelOffset data) (hheight : p + count ≤ 22 ∨ 26 ≤ p) :
    slice (flipped data) p count = slice data p count := by
  have hoffset := le_pixelOffset h
  have hpixels := h.pixels_le
  rw [flipped, slice_overwrite (fits_reverse h) (Or.inl hp), slice_setWord (by omega) hheight]

lemma u16At_flipped (hp : p + 2 ≤ 22 ∨ 26 ≤ p ∧ p + 2 ≤ 54) :
    u16At (flipped data) p = u16At data p := by
  have hoffset := le_pixelOffset h
  exact u16At_congr (slice_flipped h (by omega) (by omega))

lemma u32At_flipped (hp : p + 4 ≤ 22 ∨ 26 ≤ p ∧ p + 4 ≤ 54) :
    u32At (flipped data) p = u32At data p := by
  have hoffset := le_pixelOffset h
  exact u32At_congr (slice_flipped h (by omega) (by omega))

lemma pixels_flipped :
    slice (flipped data) (pixelOffset data) (pixelBytes data) =
      (storedRows data).reverse.flatten := by
  have hself := slice_overwrite_self (fits_reverse h (w := (flippedHeight data).toUInt32))
  rwa [length_flatten_reverse h] at hself

lemma toInt32_flipped : (u32At (flipped data) 22).toInt32 = flippedHeight data := by
  have hoffset := le_pixelOffset h
  have hpixels := h.pixels_le
  have hword : u32At (flipped data) 22 = (flippedHeight data).toUInt32 := by
    rw [flipped, u32At_congr (slice_overwrite (fits_reverse h) (by omega)),
      u32At_setWord (by omega)]
  rw [hword, Int32.toInt32_toUInt32]

lemma headerSize_flipped : headerSize (flipped data) = headerSize data :=
  congrArg UInt32.toNat (u32At_flipped h (by decide))

lemma scheme_flipped : scheme (flipped data) = scheme data :=
  congrArg UInt32.toNat (u32At_flipped h (by decide))

lemma storesAlpha_flipped : StoresAlpha (flipped data) ↔ StoresAlpha data := by
  rw [StoresAlpha, StoresAlpha, headerSize_flipped h, scheme_flipped h]

variable (hmin : (u32At data 22).toInt32 ≠ Int32.minValue)

include hmin

lemma height_flipped : height (flipped data) = -height data := by
  rw [height, toInt32_flipped h, flippedHeight, toInt_neg_of_ne hmin, height]

/-! ### It is a bitmap file -/

lemma sameShape_flipped : SameShape data (flipped data) where
  pixelOffset_eq := congrArg UInt32.toNat (u32At_flipped h (by decide))
  width_eq := congrArg (fun w => w.toInt32.toInt) (u32At_flipped h (by decide))
  rows_eq := by rw [rows, rows, height_flipped h hmin, Int.natAbs_neg]
  planes_eq := congrArg UInt16.toNat (u16At_flipped h (by decide))
  depth_eq := congrArg UInt16.toNat (u16At_flipped h (by decide))
  colorsUsed_eq _ := congrArg UInt32.toNat (u32At_flipped h (by decide))

lemma headersEnd_flipped : headersEnd (flipped data) = headersEnd data := by
  have hmasks : masksEnd (flipped data) = masksEnd data := if_congr (storesAlpha_flipped h) rfl rfl
  rw [headersEnd, headersEnd, scheme_flipped h, headerSize_flipped h, hmasks,
    (sameShape_flipped h hmin).tableBytes_eq]

lemma masks_flipped : masks (flipped data) = masks data := by
  refine masks_congr (by rw [scheme_flipped h]) (sameShape_flipped h hmin).depth_eq
    (storesAlpha_flipped h) fun hs => slice_flipped h ?_ (Or.inr (by decide))
  rw [← masksEnd_eq_add]
  exact ((le_headersEnd data).2 hs).trans h.headersEnd_le

lemma table_flipped (h8 : depth data ≤ 8) : table (flipped data) = table data := by
  have hfields := le_of_mem_sizes h.headerSize_mem
  have hend := h.headersEnd_le
  rw [h.headersEnd_eq h8] at hend
  rw [table, table, (sameShape_flipped h hmin).tableSize_eq h8, headerSize_flipped h,
    slice_flipped h hend (Or.inr (by omega))]

lemma source_flipped : source (flipped data) = source data :=
  source_congr (sameShape_flipped h hmin).depth_eq (masks_flipped h hmin) (table_flipped h hmin)

lemma accepts_flipped : Accepts (flipped data) := by
  have hoffset := le_pixelOffset h
  have hsignature : slice (flipped data) 0 2 = slice data 0 2 :=
    slice_flipped h (by omega) (Or.inl (by decide))
  have hsize : fileSize (flipped data) = fileSize data :=
    congrArg UInt32.toNat (u32At_flipped h (by decide))
  refine (sameShape_flipped h hmin).accepts h hsignature ?_ ?_ ?_ ?_
    (headersEnd_flipped h hmin) ?_
  · rw [hsize, length_flipped h]
    exact h.fileSize_le
  · rw [headerSize_flipped h]
    exact h.headerSize_mem
  · rw [scheme_flipped h]
    exact h.scheme_eq
  · rw [scheme_flipped h, masks_flipped h hmin]
    exact h.masks_run
  · rw [length_flipped h]
    exact h.pixels_le

/-! ### Its rows -/

lemma storedRows_flipped : storedRows (flipped data) = (storedRows data).reverse := by
  have hf := sameShape_flipped h hmin
  have hcount : rows data = (storedRows data).reverse.length := by
    rw [List.length_reverse, storedRows, length_pieces]
  rw [storedRows, hf.rows_eq, hf.stride_eq, hf.pixelOffset_eq, hf.pixelBytes_eq, pixels_flipped h,
    hcount, pieces_flatten (length_of_mem_reverse h)]

lemma topDown_flipped : (image (flipped data)).topDown = !(image data).topDown := by
  have hne := h.height_ne
  rw [Bool.eq_iff_iff, Bool.not_eq_true', ← Bool.not_eq_true, topDown_image, topDown_image,
    height_flipped h hmin]
  omega

/-- Stored in the other order and read in the other order, the rows are the same. -/
lemma rows_flipped : (image (flipped data)).rows = (image data).rows := by
  rw [Image.rows, Image.rows, storedRows_image h, storedRows_image (accepts_flipped h hmin),
    storedRows_flipped h hmin, topDown_flipped h hmin, List.reverse_reverse]
  cases (image data).topDown <;> rfl

lemma bitmap_flipped : (image (flipped data)).bitmap = (image data).bitmap := by
  have hf := sameShape_flipped h hmin
  have hdepth : (image (flipped data)).depth = (image data).depth := hf.pixelDepth_eq
  rw [Image.bitmap, Image.bitmap, Image.colors, Image.colors, Image.cells, Image.cells,
    rows_flipped h hmin, source_image, source_image, source_flipped h hmin, hdepth, width_image,
    width_image, height_image, height_image, hf.columns_eq, hf.rows_eq]

end

end Format

end Bmp

/-! ## Rows by their numbers -/

namespace Machine

/-- A row is given for the numbers below the height, and for no others. -/
lemma rowAt_eq_ok_iff {i : Image} (h : Parsed i) {y : Nat} {row : Bytes} :
    rowAt i y = .ok row ↔ y < i.height ∧ row = i.row y := by
  constructor
  · intro hrow
    have hy : y < i.height := by
      obtain ⟨index, hindex, hrow⟩ := bind_eq_ok_iff.1 hrow
      obtain ⟨start, hstart, hrow⟩ := bind_eq_ok_iff.1 hrow
      obtain ⟨rest, hrest, hrow⟩ := bind_eq_ok_iff.1 hrow
      obtain ⟨-, rfl⟩ := guarded_eq_ok_iff.1 hstart
      obtain ⟨-, rfl⟩ := guarded_eq_ok_iff.1 hrest
      obtain ⟨hfit, -⟩ := guarded_eq_ok_iff.1 hrow
      rw [rowIndex] at hindex
      split at hindex
      · -- the row would start behind the last one
        obtain rfl := Except.ok.inj hindex
        by_contra hle
        have hpos : 0 < i.stride := i.depth.stride_pos h.width_pos
        have hmul : i.height * i.stride ≤ y * i.stride := Nat.mul_le_mul_right _ (not_lt.1 hle)
        rw [List.length_drop, h.length_eq, Nat.mul_comm i.stride] at hfit
        omega
      · obtain ⟨last, hlast, hindex⟩ := bind_eq_ok_iff.1 hindex
        obtain ⟨hone, rfl⟩ := guarded_eq_ok_iff.1 hlast
        obtain ⟨hle, -⟩ := guarded_eq_ok_iff.1 hindex
        omega
    rw [rowAt_eq h hy] at hrow
    exact ⟨hy, (Except.ok.inj hrow).symm⟩
  · rintro ⟨hy, rfl⟩
    exact rowAt_eq h hy

end Machine

namespace Bmp.Image

variable {data : Bytes} {i : Image}

/-- Equal lists of rows have the same row in each place. -/
lemma row_congr {i' : Image} (hheight : i'.height = i.height) (hrows : i'.rows = i.rows) {y : Nat}
    (hy : y < i.height) : i'.row y = i.row y := by
  have hrow' := getElem?_rows (i := i') (hheight ▸ hy)
  rw [hrows, getElem?_rows hy] at hrow'
  exact (Option.some.inj hrow').symm

/-- **The order of the rows is a choice of storage.**  A bitmap file with the other sign of its
height and its rows stored in the other order is a bitmap file, with the same rows under the same
numbers, counted from the top, and the same masks and color table.  Decoding either has the same
outcome within any limits. -/
theorem read_flipped (hread : (read data).value = .ok i)
    (hmin : i.infoHeader.height ≠ Int32.minValue) :
    ∃ i', (read (flipped data)).value = .ok i' ∧ i'.infoHeader.height = -i.infoHeader.height ∧
      i'.stride = i.stride ∧ i'.masks = i.masks ∧ i'.colorTable = i.colorTable ∧
      (∀ y row, Machine.rowAt i' y = .ok row ↔ Machine.rowAt i y = .ok row) ∧
      ∀ limits,
        (Bitmap.decode limits (flipped data)).value = (Bitmap.decode limits data).value := by
  obtain ⟨haccepts, rfl⟩ := read_eq_ok_iff.1 hread
  have hheight : (image data).infoHeader.height = (u32At data 22).toInt32 :=
    congrArg InfoHeader.height (infoHeader_slice data le_rfl)
  have hheight' : (image (flipped data)).infoHeader.height = (u32At (flipped data) 22).toInt32 :=
    congrArg InfoHeader.height (infoHeader_slice (flipped data) le_rfl)
  rw [hheight] at hmin
  have hf := sameShape_flipped haccepts hmin
  have haccepts' := accepts_flipped haccepts hmin
  have hread' := read_eq_ok_iff.2 ⟨haccepts', rfl⟩
  have hsource : (image (flipped data)).source = (image data).source :=
    source_flipped haccepts hmin
  have hrows : (image (flipped data)).height = (image data).height := by
    rw [height_image, height_image, hf.rows_eq]
  refine ⟨image (flipped data), hread', ?_, ?_, ?_, ?_, fun y row => ?_, fun limits => ?_⟩
  · rw [hheight', toInt32_flipped haccepts, hheight, flippedHeight]
  · rw [stride_image haccepts', stride_image haccepts, hf.stride_eq]
  · rw [masks, masks, hsource]
  · rw [colorTable, colorTable, hsource]
  · rw [Machine.rowAt_eq_ok_iff (Machine.parsed_image haccepts'),
      Machine.rowAt_eq_ok_iff (Machine.parsed_image haccepts), hrows]
    refine and_congr_right fun hy => ?_
    rw [row_congr hrows (rows_flipped haccepts hmin) hy]
  · rw [Bitmap.value_decode, Bitmap.value_decode, hread', hread, ok_bind, ok_bind, hrows,
      bitmap_flipped haccepts hmin, width_image, width_image, hf.columns_eq]

/-- The sample file with its two rows stored from the top. -/
theorem read_flipped_sample :
    (read sample).value = .ok (image sample) ∧ (image sample).infoHeader.height ≠ Int32.minValue ∧
      ∃ i', (read (flipped sample)).value = .ok i' ∧ i'.infoHeader.height = -2 ∧
        ∀ y row, Machine.rowAt i' y = .ok row ↔ Machine.rowAt (image sample) y = .ok row := by
  have hread : (read sample).value = .ok (image sample) := rfl
  have hmin : (image sample).infoHeader.height ≠ Int32.minValue := by decide
  obtain ⟨i', hread', hheight, -, -, -, hrows, -⟩ := read_flipped hread hmin
  exact ⟨hread, hmin, i', hread', hheight, hrows⟩

end Bmp.Image

end Raster
