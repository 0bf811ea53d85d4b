import Raster.Proofs.PixelArray
import Mathlib

/-!
# Indices that the color table does not have

Once a file is accepted and its dimensions are within the limits, one thing can still go wrong: a
pixel of up to 8 bits can hold an index beyond the end of the color table.  The error names the
index of the first such pixel of the picture, from left to right and from the top row down, wherever
the row is stored (`Bitmap.decode_first_index`).

The numbers of the pixels are listed in the order of the picture, so the first number of the list
without a color (`mapM_eq_error_iff`) is that of the first pixel without a color: places of the
list are compared like places of the picture (`mul_add_lt_mul_add_iff`).
-/

namespace Raster

namespace Bmp

namespace Format

variable {data : Bytes} {x y : Nat}

lemma indexAt_lt (data : Bytes) (x y : Nat) : indexAt data x y < 2 ^ depth data :=
  (numberOf_lt _).trans_le (Nat.pow_le_pow_right (by norm_num) (by simp))

/-- A pixel of an image holds an index that the color table does not have. -/
structure OutOfRange (data : Bytes) (i : Image) (x y : Nat) : Prop where
  indexed : i.depth.bits ≤ 8
  column_lt : x < i.width
  row_lt : y < i.height
  le_index : i.colorTable.length ≤ indexAt data x y

lemma outOfRange_iff (h : Accepts data) :
    OutOfRange data (image data) x y ↔
      depth data ≤ 8 ∧ x < columns data ∧ y < rows data ∧ tableSize data ≤ indexAt data x y := by
  rw [← depth_image h, ← width_image, ← height_image]
  constructor
  · rintro ⟨h8, hx, hy, hle⟩
    rw [colorTable_of_le (depth_image h ▸ h8), length_table] at hle
    exact ⟨h8, hx, hy, hle⟩
  · rintro ⟨h8, hx, hy, hle⟩
    rw [← length_table, ← colorTable_of_le (depth_image h ▸ h8)] at hle
    exact ⟨h8, hx, hy, hle⟩

/-- Only an index beyond the color table has no color. -/
lemma color_eq_error_iff {n : Nat} {e : Error} :
    (source data).color n = .error e ↔
      depth data ≤ 8 ∧ tableSize data ≤ n ∧ e = .indexOutOfRange n (tableSize data) := by
  rw [source]
  by_cases h8 : depth data ≤ 8
  · rw [if_pos h8]
    show (table data).color n = _ ↔ _
    rw [color_table]
    by_cases hn : n < tableSize data
    · simp [hn]
    · simp [h8, hn, Nat.le_of_not_lt hn, eq_comm]
  · by_cases h24 : depth data = 24
    · simp [h24, ColorSource.color]
    · simp [h8, h24, ColorSource.color]

/-- A pixel without a color is one with an index beyond the color table. -/
lemma cell_color_eq_error_iff (h : Accepts data) (hx : x < columns data) (hy : y < rows data)
    {n : Nat} (hn : (image data).cells[y * columns data + x]? = some n) {e : Error} :
    (source data).color n = .error e ↔ OutOfRange data (image data) x y ∧
      e = .indexOutOfRange (indexAt data x y) (tableSize data) := by
  rw [color_eq_error_iff, outOfRange_iff h]
  by_cases h8 : depth data ≤ 8
  · rw [cell_eq_indexAt h h8 hx hy] at hn
    obtain rfl := Option.some.inj hn
    simp [h8, hx, hy]
  · simp [h8]

/-- A pixel with an index beyond the color table has a number, and that has no color. -/
lemma OutOfRange.exists_cell (h : Accepts data) (hout : OutOfRange data (image data) x y) :
    ∃ n, (image data).cells[y * columns data + x]? = some n ∧
      (source data).color n = .error (.indexOutOfRange (indexAt data x y) (tableSize data)) := by
  obtain ⟨h8, hx, hy, -⟩ := (outOfRange_iff h).1 hout
  have hcell := cell_eq_indexAt h h8 hx hy
  exact ⟨_, hcell, (cell_color_eq_error_iff h hx hy hcell).2 ⟨hout, rfl⟩⟩

/-- The first pixel without a color is the one that is reported. -/
lemma first_of_colors_eq_error (h : Accepts data) {e : Error}
    (hcolors : (image data).colors = .error e) :
    ∃ x y, OutOfRange data (image data) x y ∧
      (∀ x' y', OutOfRange data (image data) x' y' → y < y' ∨ y = y' ∧ x ≤ x') ∧
      e = .indexOutOfRange (indexAt data x y) (tableSize data) := by
  rw [Image.colors, source_image, mapM_eq_error_iff] at hcolors
  obtain ⟨k, n, hn, hfail, hbefore⟩ := hcolors
  obtain ⟨x, hx, y, hy, rfl⟩ := exists_place h (List.getElem?_eq_some_iff.1 hn).1
  obtain ⟨hout, he⟩ := (cell_color_eq_error_iff h hx hy hn).1 hfail
  refine ⟨x, y, hout, fun x' y' hout' => ?_, he⟩
  by_contra hlater
  have hx' : x' < columns data := ((outOfRange_iff h).1 hout').2.1
  have hlt : y' * columns data + x' < y * columns data + x :=
    (mul_add_lt_mul_add_iff hx hx').2 (by omega)
  obtain ⟨n', hn', hfail'⟩ := hout'.exists_cell h
  obtain ⟨c, hc⟩ := hbefore _ hlt n' hn'
  rw [hfail'] at hc
  cases hc

/-- One pixel without a color is enough. -/
lemma exists_colors_eq_error_iff (h : Accepts data) :
    (∃ e, (image data).colors = .error e) ↔ ∃ x y, OutOfRange data (image data) x y := by
  constructor
  · rintro ⟨e, he⟩
    obtain ⟨x, y, hout, -⟩ := first_of_colors_eq_error h he
    exact ⟨x, y, hout⟩
  · rintro ⟨x, y, hout⟩
    obtain ⟨n, hn, hfail⟩ := hout.exists_cell h
    cases hcolors : (image data).colors with
    | error e => exact ⟨e, rfl⟩
    | ok colors =>
      rw [Image.colors, source_image] at hcolors
      obtain ⟨hk, hget⟩ := List.getElem?_eq_some_iff.1 hn
      have hall := mapM_eq_ok_iff.1 hcolors
      have hcolor := hall.get hk (hall.length_eq ▸ hk)
      rw [List.get_eq_getElem, hget, hfail] at hcolor
      cases hcolor

/-- An image fails to become a picture only for want of a color. -/
lemma bitmap_eq_error_iff (h : Accepts data) {e : Error} :
    (image data).bitmap = .error e ↔ (image data).colors = .error e := by
  rw [Image.bitmap]
  cases hcolors : (image data).colors with
  | error e' => simp
  | ok colors =>
    obtain ⟨b, hb⟩ := (Machine.safe_of_parsed (Machine.parsed_image h)).ofPixels_ok colors hcolors
    rw [ok_bind, hb]
    simp

end Format

end Bmp

open Bmp Bmp.Format

namespace Bitmap

variable {data : Bytes} {i : Image}

/-- **Decoding fails at the first index that the color table does not have.**  A file that is
accepted and whose dimensions are within the limits is decoded unless a pixel holds an index beyond
the color table.  The error then names the index of the first such pixel, from the top row down and
from left to right, and the length of the table.  So decoding fails neither for pixels of more than
8 bits nor with a color for each possible index. -/
theorem decode_first_index (limits : Limits) (hread : (Image.read data).value = .ok i)
    (hwidth : i.width ≤ limits.maxWidth) (hheight : i.height ≤ limits.maxHeight) :
    let outcome := (decode limits data).value
    let entries := i.colorTable.length
    ((∃ e, outcome = .error e) ↔ ∃ x y, OutOfRange data i x y) ∧
    (∀ e, outcome = .error e → ∃ x y, OutOfRange data i x y ∧
      (∀ x' y', OutOfRange data i x' y' → y < y' ∨ y = y' ∧ x ≤ x') ∧
      let index := indexAt data x y
      e = .indexOutOfRange index entries ∧ e.kind = .malformed ∧
        e.message = s!"color index {index} is out of range for a table with {entries} entries") ∧
    (8 < i.depth.bits ∨ entries = 2 ^ i.depth.bits → ∃ b, outcome = .ok b) := by
  obtain ⟨haccepts, rfl⟩ := Image.read_eq_ok_iff.1 hread
  intro outcome entries
  have houtcome : outcome = (image data).bitmap := by
    show (decode limits data).value = _
    rw [value_decode, hread, ok_bind, Limits.checkDimensions, require_bind ⟨hwidth, hheight⟩]
  have hiff : (∃ e, outcome = .error e) ↔ ∃ x y, OutOfRange data (image data) x y := by
    simp only [houtcome, bitmap_eq_error_iff haccepts]
    exact exists_colors_eq_error_iff haccepts
  refine ⟨hiff, ?_, ?_⟩
  · intro e he
    rw [houtcome, bitmap_eq_error_iff haccepts] at he
    obtain ⟨x, y, hout, hfirst, rfl⟩ := first_of_colors_eq_error haccepts he
    have hentries : entries = tableSize data := by
      rw [← length_table, ← colorTable_of_le ((outOfRange_iff haccepts).1 hout).1]
    rw [hentries]
    exact ⟨x, y, hout, hfirst, rfl, rfl, rfl⟩
  · intro hfull
    cases h : outcome with
    | ok b => exact ⟨b, rfl⟩
    | error e =>
      obtain ⟨x, y, hout⟩ := hiff.1 ⟨e, h⟩
      have hindex := indexAt_lt data x y
      have hle := hout.le_index
      have h8 := hout.indexed
      rw [← depth_image haccepts] at hindex
      omega

/-- The sample file with two indices that the color table does not have: 5 at the start of the row
that is stored first, and 9 at the end of the other row, which is the top one. -/
def strayIndices : Bytes := (Image.sample.set 66 0x51).set 71 0x9f

/-- The index in the top row is reported. -/
theorem decode_first_index_sample :
    OutOfRange strayIndices (image strayIndices) 0 1 ∧
      (decode {} strayIndices).value = .error (.indexOutOfRange 9 3) := by
  have hread : (Image.read strayIndices).value = .ok (image strayIndices) := rfl
  have hbottom : OutOfRange strayIndices (image strayIndices) 0 1 := by
    constructor <;> decide
  have htop : OutOfRange strayIndices (image strayIndices) 2 0 := by
    constructor <;> decide
  obtain ⟨hiff, hfirst, -⟩ :=
    decode_first_index {} hread (by decide) (by decide)
  obtain ⟨e, he⟩ := hiff.2 ⟨2, 0, htop⟩
  obtain ⟨x, y, hout, hleast, rfl, -⟩ := hfirst e he
  have hxy : x = 2 ∧ y = 0 := by
    have hbefore : ∀ x < 2, ¬ 3 ≤ indexAt strayIndices x 0 := by decide
    have hle := hleast 2 0 htop
    obtain rfl : y = 0 := by omega
    have hx := mt (hbefore x) (not_not.2 hout.le_index)
    omega
  obtain ⟨rfl, rfl⟩ := hxy
  exact ⟨hbottom, he⟩

end Bitmap

end Raster
