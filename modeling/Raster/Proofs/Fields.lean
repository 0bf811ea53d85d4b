import Raster.Proofs.Grammar
import Mathlib

/-!
# Byte strings with the same fields

Two byte strings have the *same fields* if their headers describe the picture in the same way: where
the pixel array starts, how large the picture is, how the pixels are stored, how many colors there
are.  Then all that the format derives from these fields is the same in both.  If the stored masks
are the same too, one of the two is a bitmap file if the other one is, as soon as it is long enough
(`SameFields.accepts`).

They have the *same shape* if only some of these fields are the same, so that their pixel arrays are
as large and as far from the start.  What the kind of the info header, the compression scheme and
the order of the rows say may differ, and counts separately (`SameShape.accepts`).
-/

namespace Raster.Bmp.Format

open LittleEndian

variable {data data' : Bytes}

/-! ## The parts of the headers -/

/-- The number of bytes of the stored masks. -/
def masksBytes (data : Bytes) : Nat := if StoresAlpha data then 16 else 12

lemma masksEnd_eq_add (data : Bytes) : masksEnd data = 54 + masksBytes data := by
  rw [masksEnd, masksBytes]
  split <;> rfl

/-- The info header and the stored masks are parts of the headers. -/
lemma le_headersEnd (data : Bytes) :
    14 + headerSize data ≤ headersEnd data ∧
      (scheme data ≠ 0 → masksEnd data ≤ headersEnd data) := by
  rw [headersEnd]
  split
  · next hs => exact ⟨Nat.le_add_right _ _, fun hne => absurd hs hne⟩
  · next hs => exact ⟨le_max_left _ _, fun _ => le_max_right _ _⟩

namespace Accepts

/-- The fields of both headers stand within the first 54 bytes. -/
lemma fields_le (h : Accepts data) : 54 ≤ headersEnd data := by
  have hmem := le_of_mem_sizes h.headerSize_mem
  have hheader := (le_headersEnd data).1
  omega

/-- Pixels of up to 8 bits are indices; masks are stored for larger ones only. -/
lemma scheme_eq_zero (h : Accepts data) (h8 : depth data ≤ 8) : scheme data = 0 := by
  have hscheme := h.scheme_eq
  omega

/-- If pixels are indices, the color table comes last. -/
lemma headersEnd_eq (h : Accepts data) (h8 : depth data ≤ 8) :
    headersEnd data = 14 + headerSize data + 4 * tableSize data := by
  rw [headersEnd, if_pos (h.scheme_eq_zero h8), tableBytes, if_pos h8]

end Accepts

/-! ## The same shape -/

/-- The pictures are of one size and depth and have as many colors, and the pixel arrays start at
one place. -/
structure SameShape (data data' : Bytes) : Prop where
  pixelOffset_eq : pixelOffset data' = pixelOffset data
  width_eq : width data' = width data
  rows_eq : rows data' = rows data
  planes_eq : planes data' = planes data
  depth_eq : depth data' = depth data
  colorsUsed_eq : depth data ≤ 8 → colorsUsed data' = colorsUsed data

namespace SameShape

variable (h : SameShape data data')

include h

lemma columns_eq : columns data' = columns data := by
  rw [columns, columns, h.width_eq]

lemma pixelDepth_eq : pixelDepth data' = pixelDepth data := by
  rw [pixelDepth, pixelDepth, h.depth_eq]

lemma stride_eq : stride data' = stride data := by
  rw [stride, stride, h.columns_eq, h.depth_eq]

lemma pixelBytes_eq : pixelBytes data' = pixelBytes data := by
  rw [pixelBytes, pixelBytes, h.stride_eq, h.rows_eq]

lemma tableSize_eq (h8 : depth data ≤ 8) : tableSize data' = tableSize data := by
  rw [tableSize, tableSize, h.colorsUsed_eq h8, h.depth_eq]

lemma tableBytes_eq : tableBytes data' = tableBytes data := by
  rw [tableBytes, tableBytes, h.depth_eq]
  split
  · next h8 => rw [h.tableSize_eq h8]
  · rfl

/-- A byte string with the shape of a bitmap file is a bitmap file if it has the signature, its
headers are valid and end where those of the file do, and it goes on to its declared size and to the
end of the pixel array.  The headers end before the pixel array, so their bounds need not be asked
for. -/
lemma accepts (haccepts : Accepts data) (hsignature : data'.take 2 = data.take 2)
    (hsize : fileSize data' ≤ data'.length)
    (hheader : headerSize data' ∈ [40, 52, 56, 108, 124])
    (hscheme : scheme data' = 0 ∨
      (scheme data' = 3 ∨ scheme data' = 6) ∧ (depth data = 16 ∨ depth data = 32))
    (hmasks : scheme data' ≠ 0 → ∀ c, IsRunBelow (depth data) ((masks data').get c).toNat)
    (hend : headersEnd data' = headersEnd data)
    (hpixels : pixelOffset data + pixelBytes data ≤ data'.length) : Accepts data' := by
  obtain ⟨hfields, hstored⟩ := le_headersEnd data'
  have hoffset := haccepts.headersEnd_le
  exact {
    signature := hsignature.trans haccepts.signature
    fileSize_le := hsize
    headerSize_mem := hheader
    header_le := by omega
    width_pos := h.width_eq ▸ haccepts.width_pos
    height_ne := by
      have hrows := h.rows_eq
      have hheight := haccepts.height_ne
      rw [rows, rows] at hrows
      omega
    planes_eq := h.planes_eq.trans haccepts.planes_eq
    depth_mem := h.depth_eq ▸ haccepts.depth_mem
    scheme_eq := by
      rw [h.depth_eq]
      exact hscheme
    masks_le := by
      intro hs
      have hle := hstored hs
      omega
    masks_run := by
      rw [h.depth_eq]
      exact hmasks
    colors_le := by
      rw [h.depth_eq]
      intro h8
      rw [h.colorsUsed_eq h8]
      exact haccepts.colors_le h8
    table_le := by
      rw [h.depth_eq]
      intro h8
      have hlast : headersEnd data' = 14 + headerSize data' + tableBytes data' := if_pos (by omega)
      rw [tableBytes, h.depth_eq, if_pos h8] at hlast
      omega
    headersEnd_le := by
      rw [hend, h.pixelOffset_eq]
      exact hoffset
    pixels_le := by
      rw [h.pixelOffset_eq, h.pixelBytes_eq]
      exact hpixels }

end SameShape

/-! ## The same masks and colors -/

/-- The masks that stand where masks are stored, even if the compression scheme does not say so. -/
def storedMasks (data : Bytes) : ChannelMasks :=
  ⟨u32At data 54, u32At data 58, u32At data 62, if StoresAlpha data then u32At data 66 else 0⟩

lemma storedMasks_congr (halpha : StoresAlpha data' ↔ StoresAlpha data)
    (hbytes : slice data' 54 (masksBytes data) = slice data 54 (masksBytes data)) :
    storedMasks data' = storedMasks data := by
  -- a mask is a word among the bytes from 54 on
  have hword {k : Nat} (hk : k + 4 ≤ masksBytes data) :
      u32At data' (54 + k) = u32At data (54 + k) := by
    rw [← u32At_slice hk, hbytes, u32At_slice hk]
  have hthree : 12 ≤ masksBytes data := by
    rw [masksBytes]
    split <;> decide
  have hred := hword (show 0 + 4 ≤ masksBytes data by omega)
  have hgreen := hword (show 4 + 4 ≤ masksBytes data by omega)
  have hblue := hword (show 8 + 4 ≤ masksBytes data by omega)
  rw [storedMasks, storedMasks, hred, hgreen, hblue]
  by_cases ha : StoresAlpha data
  · have hlast := hword (show 12 + 4 ≤ masksBytes data by rw [masksBytes, if_pos ha])
    rw [if_pos (halpha.2 ha), if_pos ha, hlast]
  · rw [if_neg (mt halpha.1 ha), if_neg ha]

/-- Masks that are stored in both byte strings, or in neither of them, are the same if the bytes are
where they are stored. -/
lemma masks_congr (hstored : scheme data' = 0 ↔ scheme data = 0) (hdepth : depth data' = depth data)
    (halpha : StoresAlpha data' ↔ StoresAlpha data)
    (hbytes : scheme data ≠ 0 →
      slice data' 54 (masksBytes data) = slice data 54 (masksBytes data)) :
    masks data' = masks data := by
  by_cases hs : scheme data = 0
  · rw [masks, masks, if_pos (hstored.2 hs), if_pos hs, hdepth]
  · rw [masks_of_scheme_ne (mt hstored.1 hs), masks_of_scheme_ne hs]
    exact storedMasks_congr halpha (hbytes hs)

/-- The colors come from the same source if the masks or the color tables are the same. -/
lemma source_congr (hdepth : depth data' = depth data) (hmasks : masks data' = masks data)
    (htable : depth data ≤ 8 → table data' = table data) : source data' = source data := by
  rw [source, source, hdepth, hmasks]
  by_cases h8 : depth data ≤ 8
  · rw [if_pos h8, if_pos h8, htable h8]
  · rw [if_neg h8, if_neg h8]

/-! ## The same fields -/

/-- The fields that describe the picture are the same in both byte strings. -/
structure SameFields (data data' : Bytes) : Prop where
  pixelOffset_eq : pixelOffset data' = pixelOffset data
  headerSize_eq : headerSize data' = headerSize data
  width_eq : width data' = width data
  height_eq : height data' = height data
  planes_eq : planes data' = planes data
  depth_eq : depth data' = depth data
  scheme_eq : scheme data' = scheme data
  colorsUsed_eq : depth data ≤ 8 → colorsUsed data' = colorsUsed data

namespace SameFields

/-- Equal bytes hold the same fields. -/
lemma of_slices (hfields : slice data' 10 24 = slice data 10 24)
    (hcolors : depth data ≤ 8 → slice data' 46 4 = slice data 46 4) : SameFields data data' := by
  have h16 {k : Nat} (hk : k + 2 ≤ 24) : u16At data' (10 + k) = u16At data (10 + k) := by
    rw [← u16At_slice hk, hfields, u16At_slice hk]
  have h32 {k : Nat} (hk : k + 4 ≤ 24) : u32At data' (10 + k) = u32At data (10 + k) := by
    rw [← u32At_slice hk, hfields, u32At_slice hk]
  exact {
    pixelOffset_eq := congrArg UInt32.toNat (h32 (show 0 + 4 ≤ 24 by decide))
    headerSize_eq := congrArg UInt32.toNat (h32 (show 4 + 4 ≤ 24 by decide))
    width_eq := congrArg (fun w => w.toInt32.toInt) (h32 (show 8 + 4 ≤ 24 by decide))
    height_eq := congrArg (fun w => w.toInt32.toInt) (h32 (show 12 + 4 ≤ 24 by decide))
    planes_eq := congrArg UInt16.toNat (h16 (show 16 + 2 ≤ 24 by decide))
    depth_eq := congrArg UInt16.toNat (h16 (show 18 + 2 ≤ 24 by decide))
    scheme_eq := congrArg UInt32.toNat (h32 (show 20 + 4 ≤ 24 by decide))
    colorsUsed_eq := fun h8 => congrArg UInt32.toNat (u32At_congr (hcolors h8)) }

variable (h : SameFields data data')

include h

/-! ### What the fields determine -/

lemma rows_eq : rows data' = rows data := by
  rw [rows, rows, h.height_eq]

lemma sameShape : SameShape data data' where
  pixelOffset_eq := h.pixelOffset_eq
  width_eq := h.width_eq
  rows_eq := h.rows_eq
  planes_eq := h.planes_eq
  depth_eq := h.depth_eq
  colorsUsed_eq := h.colorsUsed_eq

lemma columns_eq : columns data' = columns data := h.sameShape.columns_eq

lemma stride_eq : stride data' = stride data := h.sameShape.stride_eq

lemma pixelBytes_eq : pixelBytes data' = pixelBytes data := h.sameShape.pixelBytes_eq

lemma rowStart_eq (y : Nat) : rowStart data' y = rowStart data y := by
  rw [rowStart, rowStart, h.pixelOffset_eq, h.height_eq, h.rows_eq, h.stride_eq]

lemma tableSize_eq (h8 : depth data ≤ 8) : tableSize data' = tableSize data :=
  h.sameShape.tableSize_eq h8

lemma storesAlpha_iff : StoresAlpha data' ↔ StoresAlpha data := by
  rw [StoresAlpha, StoresAlpha, h.headerSize_eq, h.scheme_eq]

lemma masksEnd_eq : masksEnd data' = masksEnd data :=
  if_congr h.storesAlpha_iff rfl rfl

lemma headersEnd_eq : headersEnd data' = headersEnd data := by
  rw [headersEnd, headersEnd, h.scheme_eq, h.headerSize_eq, h.masksEnd_eq,
    h.sameShape.tableBytes_eq]

/-- The masks are the same if the bytes are where they are stored. -/
lemma masks_eq (hmasks : scheme data ≠ 0 →
    slice data' 54 (masksBytes data) = slice data 54 (masksBytes data)) :
    masks data' = masks data :=
  masks_congr (by rw [h.scheme_eq]) h.depth_eq h.storesAlpha_iff hmasks

/-- A byte string with the fields and the masks of a bitmap file is a bitmap file if it has the
signature and goes on to its declared size and to the end of the pixel array. -/
lemma accepts (haccepts : Accepts data) (hmasks : masks data' = masks data)
    (hsignature : data'.take 2 = data.take 2) (hsize : fileSize data' ≤ data'.length)
    (hpixels : pixelOffset data + pixelBytes data ≤ data'.length) : Accepts data' := by
  refine h.sameShape.accepts haccepts hsignature hsize ?_ ?_ ?_ h.headersEnd_eq hpixels
  · rw [h.headerSize_eq]
    exact haccepts.headerSize_mem
  · rw [h.scheme_eq]
    exact haccepts.scheme_eq
  · rw [h.scheme_eq, hmasks]
    exact haccepts.masks_run

end SameFields

end Raster.Bmp.Format
