import Raster.Proofs.Fields
import Raster.Proofs.GuardedPicture
import Mathlib

/-!
# The pixel array of a file

An image that is read holds what it needs for its parts to be asked for without a check: at least
one pixel, rows of the least possible length, a color table if and only if its pixels are indices,
and a pixel array that is all there, behind the headers, the masks and the color table.
`Image.WellFormed` collects this, and `Image.read_wellFormed` finds it in every image that the
reader gives.

The rows of the picture are cut from the pixel array from its start or from its end, so they are
found to be disjoint by their places in the file (`Format.disjoint_rows`), and to be all of the
pixel array because no byte of it is left over by the cut (`Image.flatten_rows`).
-/

namespace Raster.Bmp

open Format

/-! ## The length of a row -/

/-- The length of a row is the least multiple of four bytes that has room for its pixels. -/
lemma Depth.isLeast_stride (d : Depth) (width : Nat) :
    IsLeast {n | 4 ∣ n ∧ width * d.bits ≤ 8 * n} (d.stride width) := by
  refine ⟨⟨Nat.dvd_mul_left 4 _, d.bits_le_stride width⟩, ?_⟩
  rintro _ ⟨⟨k, rfl⟩, hk⟩
  rw [stride]
  omega

/-! ## Places in the file -/

lemma disjoint_Ico_of_le {a b c d : Nat} (h : b ≤ c) : Disjoint (Set.Ico a b) (Set.Ico c d) :=
  Set.Ico_disjoint_Ico.2 ((min_le_left b d).trans (h.trans (le_max_right a c)))

/-- Blocks of one size at different places of a grid have no place in common. -/
lemma disjoint_blocks {m n : Nat} (h : m ≠ n) (start size : Nat) :
    Disjoint (Set.Ico (start + m * size) (start + m * size + size))
      (Set.Ico (start + n * size) (start + n * size + size)) := by
  wlog hlt : m < n generalizing m n
  · exact (this h.symm (by omega)).symm
  have hle : (m + 1) * size ≤ n * size := Nat.mul_le_mul_right size hlt
  rw [Nat.succ_mul] at hle
  exact disjoint_Ico_of_le (by omega)

namespace Format

variable {data : Bytes} {y y' : Nat}

/-- The places of the file header, the info header, the stored masks and the color table. -/
def frontParts (data : Bytes) : List (Set Nat) :=
  [Set.Ico 0 14, Set.Ico 14 (14 + headerSize data),
    Set.Ico 54 (if scheme data = 0 then 54 else masksEnd data),
    Set.Ico (14 + headerSize data) (14 + headerSize data + tableBytes data)]

/-- The places of a row of the picture. -/
def rowPlaces (data : Bytes) (y : Nat) : Set Nat :=
  Set.Ico (rowStart data y) (rowStart data y + stride data)

/-- The color table, if any, is a part of the headers too. -/
lemma Accepts.table_le_headersEnd (h : Accepts data) :
    14 + headerSize data + tableBytes data ≤ headersEnd data := by
  by_cases h8 : depth data ≤ 8
  · rw [h.headersEnd_eq h8, tableBytes, if_pos h8]
  · rw [tableBytes, if_neg h8]
    exact (le_headersEnd data).1

lemma disjoint_frontParts (h : Accepts data) {part : Set Nat} (hpart : part ∈ frontParts data)
    (last : Nat) : Disjoint part (Set.Ico (pixelOffset data) last) := by
  have hfields := h.fields_le
  have hend := h.headersEnd_le
  obtain ⟨hheader, hmasks⟩ := le_headersEnd data
  have htable := h.table_le_headersEnd
  simp only [frontParts, List.mem_cons, List.not_mem_nil, or_false] at hpart
  rcases hpart with rfl | rfl | rfl | rfl
  · exact disjoint_Ico_of_le (by omega)
  · exact disjoint_Ico_of_le (by omega)
  · refine disjoint_Ico_of_le ?_
    split
    · omega
    · next hs => exact (hmasks hs).trans hend
  · exact disjoint_Ico_of_le (by omega)

lemma disjoint_rows (hy : y < rows data) (hy' : y' < rows data) (hne : y ≠ y') :
    Disjoint (rowPlaces data y) (rowPlaces data y') := by
  apply disjoint_blocks
  split <;> omega

/-- A color table has an entry, and no more than indices can tell apart. -/
lemma tableSize_mem (h : Accepts data) (h8 : depth data ≤ 8) :
    1 ≤ tableSize data ∧ tableSize data ≤ 2 ^ depth data := by
  have hle := h.colors_le h8
  rw [tableSize]
  split
  · exact ⟨Nat.one_le_two_pow, le_rfl⟩
  · exact ⟨by omega, hle⟩

end Format

/-! ## Rows of an image -/

namespace Image

/-- Row `y` of the picture, counted from the top. -/
def row (i : Image) (y : Nat) : Bytes := slice i.pixelData (i.storedIndex y * i.stride) i.stride

lemma rows_eq_map (i : Image) : i.rows = (List.range i.height).map i.row := by
  refine List.ext_getElem? fun y => ?_
  by_cases hy : y < i.height
  · rw [getElem?_rows hy, List.getElem?_map, List.getElem?_range hy]
    rfl
  · rw [List.getElem?_eq_none (by simpa using hy), List.getElem?_eq_none (by simpa using hy)]

/-- The rows make up the pixel array, in the order in which they are stored. -/
lemma flatten_rows {i : Image} (hdata : i.pixelData.length = i.stride * i.height) :
    (if i.topDown then i.rows else i.rows.reverse).flatten = i.pixelData := by
  have hstored : (if i.topDown then i.rows else i.rows.reverse) = i.storedRows := by
    rw [rows]
    split
    · rfl
    · exact List.reverse_reverse _
  rw [hstored, storedRows, flatten_pieces, List.take_of_length_le]
  rw [hdata, Nat.mul_comm]

/-- An image that holds all that the file describes, in such a way that no part of it can be asked
for in vain. -/
structure WellFormed (data : Bytes) (i : Image) : Prop extends Describes data i where
  width_pos : 1 ≤ i.width
  height_pos : 1 ≤ i.height
  bits_eq : i.infoHeader.bitsPerPixel.toNat = i.depth.bits
  stride_least : IsLeast {n | 4 ∣ n ∧ i.width * i.depth.bits ≤ 8 * n} i.stride
  -- the pixel array
  offset_eq : i.fileHeader.pixelOffset.toNat = pixelOffset data
  pixelData_le : pixelOffset data + i.stride * i.height ≤ data.length
  pixelData_eq : i.pixelData = slice data (pixelOffset data) (i.stride * i.height)
  pixelData_disjoint : ∀ part ∈ frontParts data,
    Disjoint part (Set.Ico (pixelOffset data) (pixelOffset data + i.stride * i.height))
  -- the color table
  table_of_le : i.depth.bits ≤ 8 →
    1 ≤ i.colorTable.length ∧ i.colorTable.length ≤ 2 ^ i.depth.bits
  table_of_lt : 8 < i.depth.bits → i.colorTable = []
  -- the rows
  rowAt_eq : ∀ y < i.height, Machine.rowAt i y = .ok (i.row y)
  row_eq : ∀ y < i.height, i.row y = slice data (rowStart data y) i.stride
  length_row : ∀ y < i.height, (i.row y).length = i.stride
  rows_disjoint : ∀ y < i.height, ∀ y' < i.height, y ≠ y' →
    Disjoint (rowPlaces data y) (rowPlaces data y')
  rows_eq : i.rows = (List.range i.height).map i.row
  flatten_rows : (if i.topDown then i.rows else i.rows.reverse).flatten = i.pixelData

/-- **Images that are read are well formed.** -/
theorem read_wellFormed {data : Bytes} {i : Image} (h : (read data).value = .ok i) :
    WellFormed data i := by
  obtain ⟨haccepts, rfl⟩ := read_eq_ok_iff.1 h
  have hparsed := Machine.parsed_image haccepts
  have hbits : (image data).depth.bits = Format.depth data := depth_image haccepts
  have hbytes : (image data).stride * (image data).height = pixelBytes data := by
    rw [stride_image haccepts, height_image, pixelBytes]
  have hin {y : Nat} (hy : y < (image data).height) : y < Format.rows data := by
    rwa [height_image] at hy
  have hrow : ∀ y < (image data).height,
      (image data).row y = slice data (rowStart data y) (image data).stride := by
    intro y hy
    rw [row, row_image haccepts (hin hy), stride_image haccepts]
  refine {
    toDescribes := describes_image haccepts
    width_pos := hparsed.width_pos
    height_pos := hparsed.height_pos
    bits_eq := hparsed.bits_eq
    stride_least := Depth.isLeast_stride _ _
    offset_eq := congrArg (·.pixelOffset.toNat) (fileHeader_slice data)
    pixelData_le := ?_
    pixelData_eq := ?_
    pixelData_disjoint := fun part hpart => disjoint_frontParts haccepts hpart _
    table_of_le := fun h8 => ?_
    table_of_lt := fun h8 => ?_
    rowAt_eq := fun y hy => Machine.rowAt_eq hparsed hy
    row_eq := hrow
    length_row := fun y hy => ?_
    rows_disjoint := fun y hy y' hy' => disjoint_rows (hin hy) (hin hy')
    rows_eq := rows_eq_map _
    flatten_rows := flatten_rows hparsed.length_eq }
  · rw [hbytes]
    exact haccepts.pixels_le
  · rw [hbytes]
    rfl
  · rw [hbits] at h8 ⊢
    rw [colorTable_of_le h8, length_table]
    exact tableSize_mem haccepts h8
  · rw [hbits] at h8
    exact colorTable_of_lt h8
  · rw [hrow y hy, stride_image haccepts]
    exact length_slice (row_le_length haccepts (hin hy))

/-- The sample file has two rows of pixels behind a table of three colors. -/
theorem read_wellFormed_sample :
    (read sample).value = .ok (image sample) ∧ WellFormed sample (image sample) :=
  ⟨rfl, read_wellFormed rfl⟩

end Image

end Raster.Bmp
