import Raster.Proofs.Bits
import Raster.Proofs.Fields
import Raster.Proofs.Pixels
import Raster.Limits
import Mathlib

/-!
# What the picture does not depend on

Much of a bitmap file has no bearing on its picture: reserved fields, sizes and densities that
nothing is computed from, bytes between the parts of the file, the padding of the rows, bits of a
pixel that no mask selects.  `Unused` lists all of this, bit by bit.  A file that differs in unused
bits only (`AgreeOnUsed`) has the same picture, or fails to have one with the same error
(`Bitmap.decode_eq_of_agreeOnUsed`).

The argument goes from the bits to the picture.  Two lemmas say what can be unused in the headers
(`Unused.of_lt_headersEnd`) and in a row (`Unused.of_row`).  So both files have the same fields, the
same masks and the same colors in their tables, and the numbers that a pixel holds in them are
either the same or have the same bits under every mask.
-/

namespace Raster

open LittleEndian Bmp Bmp.Format

/-! ## Colors of numbers -/

namespace Bmp

/-- A mask reads the same level from numbers that have the same bits under it. -/
lemma Mask.levelOr_congr {m : Mask} {n n' : Nat}
    (h : ∀ k, m.toNat.testBit k = true → n'.testBit k = n.testBit k) (absent : UInt8) :
    m.levelOr absent n' = m.levelOr absent n := by
  have hand : n' &&& m.toNat = n &&& m.toNat := by
    apply Nat.eq_of_testBit_eq
    intro k
    rw [Nat.testBit_and, Nat.testBit_and]
    cases hk : m.toNat.testBit k with
    | false => rw [Bool.and_false, Bool.and_false]
    | true => rw [h k hk]
  have hvalue : m.value n' = m.value n := by rw [value, value, hand]
  rw [levelOr, levelOr, level, level, hvalue]

lemma ChannelMasks.color_congr {m : ChannelMasks} {n n' : Nat}
    (h : ∀ c k, (m.get c).toNat.testBit k = true → n'.testBit k = n.testBit k) :
    m.color n' = m.color n := by
  have hred : m.red.levelOr 0 n' = m.red.levelOr 0 n := Mask.levelOr_congr (h .red) 0
  have hgreen : m.green.levelOr 0 n' = m.green.levelOr 0 n := Mask.levelOr_congr (h .green) 0
  have hblue : m.blue.levelOr 0 n' = m.blue.levelOr 0 n := Mask.levelOr_congr (h .blue) 0
  have halpha : m.alpha.levelOr 0xff n' = m.alpha.levelOr 0xff n :=
    Mask.levelOr_congr (h .alpha) 0xff
  rw [color, color, hred, hgreen, hblue, halpha]

end Bmp

/-! ## Unused bits -/

namespace Bmp.Format

/-- Bit `j` of the byte at position `p` has no bearing on the picture. -/
inductive Unused (data : Bytes) : Nat → Nat → Prop where
  /-- The declared size of the file. -/
  | fileSize {p j : Nat} : 2 ≤ p → p < 6 → Unused data p j
  /-- The reserved fields of the file header. -/
  | reserved {p j : Nat} : 6 ≤ p → p < 10 → Unused data p j
  /-- The declared size of the pixel array, and the densities of the picture. -/
  | imageSize {p j : Nat} : 34 ≤ p → p < 46 → Unused data p j
  /-- The number of colors, unless pixels are indices. -/
  | colorsUsed {p j : Nat} : 8 < depth data → 46 ≤ p → p < 50 → Unused data p j
  /-- The number of important colors. -/
  | colorsImportant {p j : Nat} : 50 ≤ p → p < 54 → Unused data p j
  /-- What an info header has beyond its first 40 bytes, apart from masks. -/
  | extension {p j : Nat} : 54 ≤ p → p < 14 + headerSize data → scheme data = 0 ∨ 70 ≤ p →
      Unused data p j
  /-- The reserved byte of entry `n` of the color table. -/
  | entry {n j : Nat} : depth data ≤ 8 → n < tableSize data →
      Unused data (14 + headerSize data + 4 * n + 3) j
  /-- What stands between the headers and the pixel array. -/
  | gap {p j : Nat} : headersEnd data ≤ p → p < pixelOffset data → Unused data p j
  /-- The padding of a row.  The bits of a row are numbered from the highest bit of each byte
  down. -/
  | padding {y q j : Nat} : y < rows data → q < stride data →
      columns data * depth data ≤ 8 * q + (7 - j) → Unused data (rowStart data y + q) j
  /-- A bit of byte `t` of a pixel that is outside all masks. -/
  | outside {x y t j : Nat} : depth data = 16 ∨ depth data = 32 → x < columns data →
      y < rows data → t < depth data / 8 →
      (∀ c, ((masks data).get c).toNat.testBit (8 * t + j) = false) →
      Unused data (rowStart data y + (x * (depth data / 8) + t)) j
  /-- What follows the pixel array. -/
  | trailing {p j : Nat} : pixelOffset data + pixelBytes data ≤ p → Unused data p j

/-- The second byte string is as long as the first and has the same bits wherever the first uses
them.  The size that it declares is not used either, as long as that many bytes are there. -/
structure AgreeOnUsed (data data' : Bytes) : Prop where
  length_eq : data'.length = data.length
  fileSize_le : fileSize data' ≤ data'.length
  bit_eq : ∀ p, ∀ j < 8, ¬ Unused data p j → bitAt data' p j = bitAt data p j

variable {data data' : Bytes} {x y p q j n k : Nat}

lemma pixelOffset_le_rowStart (data : Bytes) (y : Nat) : pixelOffset data ≤ rowStart data y :=
  Nat.le_add_right _ _

/-- A place in a row is so many bytes behind the start of the row. -/
lemma eq_of_rowStart_add_eq {y' q' : Nat} (hq : q < stride data) (hq' : q' < stride data)
    (h : rowStart data y + q = rowStart data y' + q') : q = q' := by
  rw [rowStart, rowStart, Nat.add_assoc, Nat.add_assoc] at h
  exact eq_of_mul_add_eq hq hq' (Nat.add_left_cancel h)

/-- What is unused in the headers. -/
lemma Unused.of_lt_headersEnd (h : Unused data p j) (haccepts : Accepts data)
    (hp : p < headersEnd data) :
    2 ≤ p ∧ p < 10 ∨ 34 ≤ p ∧ p < 46 ∨ 8 < depth data ∧ 46 ≤ p ∧ p < 50 ∨ 50 ≤ p ∧ p < 54 ∨
      (54 ≤ p ∧ p < 14 + headerSize data ∧ (scheme data = 0 ∨ 70 ≤ p)) ∨
      depth data ≤ 8 ∧ 54 ≤ p ∧ 14 + headerSize data ≤ p ∧
        (p - (14 + headerSize data)) % 4 = 3 := by
  have hmem := le_of_mem_sizes haccepts.headerSize_mem
  have hoffset := haccepts.headersEnd_le
  cases h with
  | fileSize | reserved | imageSize | colorsUsed | colorsImportant | extension | entry | gap
  | trailing => omega
  | @padding y | @outside x y =>
    -- a row is behind the headers
    have hrow := pixelOffset_le_rowStart data y
    omega

/-- What is unused in a row: its padding, and the bits of a pixel that no mask selects. -/
lemma Unused.of_row (haccepts : Accepts data) (hy : y < rows data) (hq : q < stride data)
    (h : Unused data (rowStart data y + q) j) :
    columns data * depth data ≤ 8 * q + (7 - j) ∨
      (depth data = 16 ∨ depth data = 32) ∧ ∃ x t, q = x * (depth data / 8) + t ∧
        t < depth data / 8 ∧ ∀ c, ((masks data).get c).toNat.testBit (8 * t + j) = false := by
  have hfields := haccepts.fields_le
  have hheader := (le_headersEnd data).1
  have hoffset := haccepts.headersEnd_le
  have hstart := pixelOffset_le_rowStart data y
  have hend := row_le_pixelBytes haccepts hy
  have hrow : rowStart data y = pixelOffset data + (image data).storedIndex y * stride data := by
    rw [rowStart, storedIndex_image]
  generalize hp : rowStart data y + q = p at h
  cases h with
  | fileSize | reserved | imageSize | colorsUsed | colorsImportant | extension | gap
  | trailing =>
    -- these are before the pixel array or behind it
    omega
  | entry h8 hn =>
    have htable := haccepts.headersEnd_eq h8
    omega
  | padding hy' hq' hbit =>
    rw [eq_of_rowStart_add_eq hq hq' hp]
    exact Or.inl hbit
  | outside hdepth hx' hy' ht hmasks =>
    have hword := word_le_stride haccepts (by omega) hx'
    exact Or.inr ⟨hdepth, _, _, eq_of_rowStart_add_eq hq (by omega) hp, ht, hmasks⟩

/-! ## Files that agree on what is used -/

namespace AgreeOnUsed

variable (h : AgreeOnUsed data data') (haccepts : Accepts data)

include h

lemma getElem?_eq (hused : ∀ j, ¬ Unused data p j) : data'[p]? = data[p]? :=
  getElem?_congr h.length_eq fun j hj => h.bit_eq p j hj (hused j)

lemma slice_eq {offset count : Nat} (hused : ∀ k < count, ∀ j, ¬ Unused data (offset + k) j) :
    slice data' offset count = slice data offset count :=
  slice_congr fun k hk => h.getElem?_eq (hused k hk)

include haccepts

/-! ### Headers, masks, color table -/

lemma sameFields : SameFields data data' := by
  have hfields := haccepts.fields_le
  refine .of_slices (h.slice_eq ?_) fun h8 => h.slice_eq ?_
  · intro k hk j hunused
    have hcases := hunused.of_lt_headersEnd haccepts (by omega)
    omega
  · intro k hk j hunused
    have hcases := hunused.of_lt_headersEnd haccepts (by omega)
    omega

lemma masks_eq : masks data' = masks data := by
  have hbytes : masksBytes data ≤ 16 := by
    rw [masksBytes]
    split <;> decide
  refine (h.sameFields haccepts).masks_eq fun hs => h.slice_eq ?_
  intro k hk j hunused
  have h8 : ¬ depth data ≤ 8 := fun h8 => hs (haccepts.scheme_eq_zero h8)
  have hstored := (le_headersEnd data).2 hs
  rw [masksEnd_eq_add] at hstored
  have hcases := hunused.of_lt_headersEnd haccepts (by omega)
  omega

/-- The second byte string is a bitmap file, too. -/
lemma accepts : Accepts data' := by
  have hfields := haccepts.fields_le
  have hsignature : slice data' 0 2 = slice data 0 2 := by
    refine h.slice_eq fun k hk j hunused => ?_
    have hcases := hunused.of_lt_headersEnd haccepts (by omega)
    omega
  exact (h.sameFields haccepts).accepts haccepts (h.masks_eq haccepts) hsignature h.fileSize_le
    (h.length_eq ▸ haccepts.pixels_le)

/-- An index has the same color in both tables, or is in neither of them. -/
lemma table_color_eq (h8 : depth data ≤ 8) (n : Nat) :
    (table data').color n = (table data).color n := by
  have hf := h.sameFields haccepts
  have htable := haccepts.headersEnd_eq h8
  rw [color_table, color_table, hf.tableSize_eq h8, hf.headerSize_eq]
  by_cases hn : n < tableSize data
  · have hbyte {k : Nat} (hk : k < 3) :
        (slice data' (14 + headerSize data + 4 * n) 4)[k]? =
          (slice data (14 + headerSize data + 4 * n) 4)[k]? := by
      rw [getElem?_slice (by omega), getElem?_slice (by omega)]
      refine h.getElem?_eq fun j hunused => ?_
      have hmem := le_of_mem_sizes haccepts.headerSize_mem
      have hcases := hunused.of_lt_headersEnd haccepts (by omega)
      omega
    rw [if_pos hn, if_pos hn]
    simp only [TableEntry.ofBytes, TableEntry.color, hbyte (show 0 < 3 by decide),
      hbyte (show 1 < 3 by decide), hbyte (show 2 < 3 by decide)]
  · rw [if_neg hn, if_neg hn]

/-! ### Pixels -/

/-- An index is the same in both files: its bits are before the padding. -/
lemma indexAt_eq (h8 : depth data ≤ 8) (hx : x < columns data) (hy : y < rows data) :
    indexAt data' x y = indexAt data x y := by
  have hf := h.sameFields haccepts
  have hrow := row_le_length haccepts hy
  have hlength := h.length_eq
  have hfit : columns data * depth data ≤ 8 * stride data := by
    have hbits := (pixelDepth data).bits_le_stride (columns data)
    rwa [bits_pixelDepth haccepts.depth_mem, depth_stride haccepts.depth_mem] at hbits
  rw [indexAt, indexAt, hf.rowStart_eq, hf.stride_eq, hf.depth_eq]
  congr 1
  apply List.ext_getElem?
  intro k
  by_cases hk : k < depth data
  · -- a bit of a pixel is before the padding, and there are no masks
    have hbit : x * depth data + k < columns data * depth data := mul_add_lt hx hk
    rw [List.getElem?_take_of_lt hk, List.getElem?_take_of_lt hk, List.getElem?_drop,
      List.getElem?_drop, getElem?_bitsOf_slice (by omega) (by omega),
      getElem?_bitsOf_slice (by omega) (by omega)]
    congr 1
    refine h.bit_eq _ _ (by omega) fun hunused => ?_
    rcases hunused.of_row haccepts hy (by omega) with hpadding | ⟨hdepth, -⟩ <;> omega
  · rw [List.getElem?_take_eq_none (by omega), List.getElem?_take_eq_none (by omega)]

/-- A larger pixel holds numbers in both files that have the same bits under every mask; without
masks, they have the same bits. -/
lemma testBit_wordAt_eq (h8 : 8 < depth data) (hx : x < columns data) (hy : y < rows data)
    (hused : depth data = 24 ∨ ∃ c, ((masks data).get c).toNat.testBit k = true) :
    (wordAt data' x y).testBit k = (wordAt data x y).testBit k := by
  have hf := h.sameFields haccepts
  rw [wordAt_eq (h.accepts haccepts) (hf.depth_eq ▸ h8), wordAt_eq haccepts h8, hf.rowStart_eq,
    hf.depth_eq, testBit_decode_slice, testBit_decode_slice]
  by_cases hk : k < 8 * (depth data / 8)
  · congr 1
    have hword := word_le_stride haccepts h8 hx
    have hbits := Nat.mul_div_cancel' (haccepts.dvd_depth h8)
    rw [Nat.add_assoc]
    refine h.bit_eq _ _ (by omega) fun hunused => ?_
    rcases hunused.of_row haccepts hy (by omega) with hpadding | ⟨hdepth, x', t, heq, ht, hmasks⟩
    · -- the bit is one of a pixel, which ends before the padding
      have hpixel : x * depth data + depth data ≤ columns data * depth data := by
        rw [← Nat.succ_mul]
        exact Nat.mul_le_mul_right _ hx
      have hwhole : x * depth data = 8 * (x * (depth data / 8)) := by
        rw [Nat.mul_left_comm, hbits]
      omega
    · -- the bit is outside all masks
      obtain rfl : k / 8 = t := eq_of_mul_add_eq (by omega) ht heq
      rcases hused with h24 | ⟨c, hc⟩
      · omega
      · rw [Nat.div_add_mod] at hmasks
        exact absurd hc (Bool.not_eq_true _ ▸ hmasks c)
  · -- neither number has as many bits
    rw [decide_eq_false hk, Bool.false_and, Bool.false_and]

/-- What a pixel holds has the same color in both files. -/
lemma exists_cells (hx : x < columns data) (hy : y < rows data) :
    ∃ n n', (image data).cells[y * columns data + x]? = some n ∧
      (image data').cells[y * columns data + x]? = some n' ∧
      (source data').color n' = (source data).color n := by
  have hf := h.sameFields haccepts
  have haccepts' := h.accepts haccepts
  have hx' : x < columns data' := hf.columns_eq ▸ hx
  have hy' : y < rows data' := hf.rows_eq ▸ hy
  rw [source, source, hf.depth_eq]
  by_cases h8 : depth data ≤ 8
  · have hcell' := cell_eq_indexAt haccepts' (hf.depth_eq ▸ h8) hx' hy'
    rw [hf.columns_eq, h.indexAt_eq haccepts h8 hx hy] at hcell'
    refine ⟨_, _, cell_eq_indexAt haccepts h8 hx hy, hcell', ?_⟩
    rw [if_pos h8, if_pos h8]
    exact h.table_color_eq haccepts h8 _
  · have hcell' := cell_eq_word haccepts' (hf.depth_eq ▸ Nat.lt_of_not_le h8) hx' hy'
    rw [hf.columns_eq] at hcell'
    refine ⟨_, _, cell_eq_word haccepts (by omega) hx hy, hcell', ?_⟩
    rw [if_neg h8, if_neg h8, h.masks_eq haccepts, ← wordAt_eq haccepts (by omega),
      ← wordAt_eq (h.accepts haccepts) (hf.depth_eq ▸ Nat.lt_of_not_le h8)]
    by_cases h24 : depth data = 24
    · rw [if_pos h24]
      apply congrArg
      apply Nat.eq_of_testBit_eq
      intro k
      exact h.testBit_wordAt_eq haccepts (by omega) hx hy (Or.inl h24)
    · rw [if_neg h24]
      apply congrArg Except.ok
      apply ChannelMasks.color_congr
      intro c k hk
      exact h.testBit_wordAt_eq haccepts (by omega) hx hy (Or.inr ⟨c, hk⟩)

/-! ### The picture -/

lemma colors_eq : (image data').colors = (image data).colors := by
  have hf := h.sameFields haccepts
  have hlength := length_cells_image haccepts
  have hlength' := length_cells_image (h.accepts haccepts)
  rw [hf.rows_eq, hf.columns_eq] at hlength'
  rw [Image.colors, Image.colors, source_image, source_image]
  apply mapM_congr_forall₂
  rw [List.forall₂_iff_get]
  refine ⟨hlength'.trans hlength.symm, ?_⟩
  intro k hk' hk
  obtain ⟨x, hx, y, hy, rfl⟩ := exists_place haccepts hk
  obtain ⟨n, n', hn, hn', hcolor⟩ := h.exists_cells haccepts hx hy
  rw [List.getElem?_eq_getElem hk, Option.some_inj] at hn
  rw [List.getElem?_eq_getElem hk', Option.some_inj] at hn'
  rw [List.get_eq_getElem, List.get_eq_getElem, hn, hn', hcolor]

lemma bitmap_eq : (image data').bitmap = (image data).bitmap := by
  have hf := h.sameFields haccepts
  rw [Image.bitmap, Image.bitmap, h.colors_eq haccepts, width_image, width_image, height_image,
    height_image, hf.columns_eq, hf.rows_eq]

end AgreeOnUsed

end Bmp.Format

namespace Bitmap

variable {data data' : Bytes} {i : Image}

/-- **What the picture does not depend on.**  Decoding a bitmap file and decoding a file that agrees
with it on what is used have the same outcome within any limits. -/
theorem decode_eq_of_agreeOnUsed (hread : (Image.read data).value = .ok i)
    (h : AgreeOnUsed data data') (limits : Limits) :
    (decode limits data').value = (decode limits data).value := by
  obtain ⟨haccepts, rfl⟩ := Image.read_eq_ok_iff.1 hread
  have hread' := Image.read_eq_ok_iff.2 ⟨h.accepts haccepts, rfl⟩
  have hf := h.sameFields haccepts
  rw [value_decode, value_decode, hread, hread', ok_bind, ok_bind, width_image, width_image,
    height_image, height_image, hf.columns_eq, hf.rows_eq, h.bitmap_eq haccepts]

/-- The sample file with another declared size, something in a reserved field, in the reserved byte
of a color and in the padding of its second row. -/
def alteredSample : Bytes := (((Image.sample.set 2 9).set 6 1).set 57 0xab).set 67 0x2c

/-- The two files differ in unused bits only. -/
lemma agreeOnUsed_alteredSample : AgreeOnUsed Image.sample alteredSample where
  length_eq := rfl
  fileSize_le := by decide
  bit_eq := by
    intro p j hj hused
    have hbits : ∀ p < 74, ∀ j < 8, bitAt alteredSample p j = bitAt Image.sample p j ∨
        p = 2 ∨ p = 6 ∨ p = 57 ∨ p = 67 ∧ j < 4 := by decide
    by_cases hp : p < 74
    · rcases hbits p hp j hj with heq | rfl | rfl | rfl | ⟨rfl, hlow⟩
      · exact heq
      · exact absurd (.fileSize (by decide) (by decide)) hused
      · exact absurd (.reserved (by decide) (by decide)) hused
      · have hentry : Unused Image.sample (14 + headerSize Image.sample + 4 * 0 + 3) j := by
          refine .entry (n := 0) ?_ ?_ <;> decide
        exact absurd hentry hused
      · have hpadding : Unused Image.sample (rowStart Image.sample 1 + 1) j := by
          refine .padding (by decide) (by decide) ?_
          show 12 ≤ 8 * 1 + (7 - j)
          omega
        exact absurd hpadding hused
    · have hlast : 74 ≤ p := Nat.le_of_not_lt hp
      exact absurd (.trailing hlast) hused

theorem decode_eq_of_agreeOnUsed_sample :
    (Image.read Image.sample).value = .ok (image Image.sample) ∧
      AgreeOnUsed Image.sample alteredSample ∧
      ∀ limits, (decode limits alteredSample).value = (decode limits Image.sample).value := by
  have hread : (Image.read Image.sample).value = .ok (image Image.sample) := rfl
  exact ⟨hread, agreeOnUsed_alteredSample,
    decode_eq_of_agreeOnUsed hread agreeOnUsed_alteredSample⟩

end Bitmap

end Raster
