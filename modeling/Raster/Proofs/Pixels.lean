import Raster.Proofs.Grammar
import Raster.Proofs.Rows
import Mathlib

/-!
# The pixels of a picture

The picture of a bitmap file shows in every place the color that the format assigns to it
(`Image.bitmap_pixel_exact`).  The picture is a list of colors, row by row; the color in column `x`
and row `y` comes from the number that the pixel holds there.  That number is the one that stands at
the place that the format says (`cell_eq_indexAt`, `cell_eq_word`), and its color is the one that
the format gives it (`shows_of_color`).
-/

namespace Raster

open LittleEndian Bmp Bmp.Format

namespace Bitmap

lemma ofPixels_eq_ok_iff {width height : Nat} {pixels : Bytes} {b : Bitmap} :
    ofPixels width height pixels = .ok b ↔
      b.width = width ∧ b.height = height ∧ b.pixels = pixels := by
  constructor
  · intro h
    rw [ofPixels] at h
    split at h
    · exact absurd h (by simp)
    split at h
    · exact absurd h (by simp)
    split at h
    · obtain rfl := Except.ok.inj h
      exact ⟨rfl, rfl, rfl⟩
    · exact absurd h (by simp)
  · rintro ⟨rfl, rfl, rfl⟩
    exact ofPixels_pixels b

/-- A bitmap shows the colors whose bytes it is made of. -/
lemma pixel?_of_pixels_eq {b : Bitmap} {colors : List Color} {x y : Nat} {c : Color}
    (hb : b.pixels = colors.flatMap Color.toBytes) (hx : x < b.width) (hy : y < b.height)
    (hc : colors[y * b.width + x]? = some c) : b.pixel? x y = some c := by
  rw [pixel?, if_pos ⟨hx, hy⟩, hb, take_drop_blocks (fun c _ => c.length_toBytes) hc,
    Color.ofBytes?_toBytes]

end Bitmap

namespace Bmp

variable {data : Bytes} {x y : Nat}

/-! ## The number that a pixel holds -/

namespace Format

lemma width_image : (image data).width = columns data := infoHeader_columns

lemma height_image : (image data).height = rows data := infoHeader_rows

lemma stride_image (h : Accepts data) : (image data).stride = stride data :=
  (describes_image h).stride_eq

lemma depth_image (h : Accepts data) : (image data).depth.bits = depth data :=
  (describes_image h).depth_eq

lemma length_pixelData_image (h : Accepts data) :
    (image data).pixelData.length = (image data).stride * (image data).height := by
  rw [stride_image h, height_image]
  exact length_slice h.pixels_le

/-- A bitmap file holds a number for each place of the picture. -/
lemma length_cells_image (h : Accepts data) :
    (image data).cells.length = rows data * columns data := by
  rw [Image.length_imageCells (length_pixelData_image h), width_image, height_image]

lemma Accepts.columns_pos (h : Accepts data) : 0 < columns data := by
  have hpos := h.width_pos
  rw [columns]
  omega

/-- Every number of the image is that of a pixel. -/
lemma exists_place (h : Accepts data) {k : Nat} (hk : k < (image data).cells.length) :
    ∃ x < columns data, ∃ y < rows data, k = y * columns data + x := by
  have hcolumns := h.columns_pos
  refine ⟨k % columns data, Nat.mod_lt k hcolumns, k / columns data, ?_, (Nat.div_add_mod' ..).symm⟩
  rwa [Nat.div_lt_iff_lt_mul hcolumns, ← length_cells_image h]

lemma topDown_image : (image data).topDown = true ↔ height data < 0 := by
  show decide ((InfoHeader.ofBytes (slice data 14 40)).height < 0) = true ↔ _
  rw [infoHeader_slice data le_rfl, decide_eq_true_iff]
  exact Int32.lt_iff_toInt_lt

/-- The stored row that is row `y` of the picture. -/
lemma storedIndex_image (y : Nat) :
    (image data).storedIndex y = if height data < 0 then y else rows data - 1 - y := by
  rw [Image.storedIndex, height_image]
  exact if_congr topDown_image rfl rfl

/-- A row ends within the pixel array. -/
lemma row_le_pixelBytes (h : Accepts data) (hy : y < rows data) :
    (image data).storedIndex y * stride data + stride data ≤ pixelBytes data := by
  have hlength := length_pixelData_image h
  have hend := Image.storedIndex_end hlength (y := y) (by rwa [height_image])
  rwa [hlength, stride_image h, height_image] at hend

/-- A row of the image is where the format says. -/
lemma row_image (h : Accepts data) (hy : y < rows data) :
    slice (image data).pixelData ((image data).storedIndex y * (image data).stride)
        (image data).stride = slice data (rowStart data y) (stride data) := by
  rw [stride_image h, rowStart, ← storedIndex_image]
  exact slice_slice (row_le_pixelBytes h hy)

/-- A row ends within the file. -/
lemma row_le_length (h : Accepts data) (hy : y < rows data) :
    rowStart data y + stride data ≤ data.length := by
  have hend := row_le_pixelBytes h hy
  have hpixels := h.pixels_le
  rw [rowStart, ← storedIndex_image]
  omega

lemma length_row (h : Accepts data) (hy : y < rows data) :
    (slice data (rowStart data y) (stride data)).length =
      (pixelDepth data).stride (columns data) := by
  rw [length_slice (row_le_length h hy), depth_stride h.depth_mem]

/-- A pixel of more than 8 bits ends within its row. -/
lemma word_le_stride (h : Accepts data) (h8 : 8 < depth data) (hx : x < columns data) :
    x * (depth data / 8) + depth data / 8 ≤ stride data := by
  have hd := bits_pixelDepth h.depth_mem
  have hfit := Depth.bytes_le_stride (hd.symm ▸ h8) (columns data)
  rw [hd, depth_stride h.depth_mem] at hfit
  calc x * (depth data / 8) + depth data / 8 = (x + 1) * (depth data / 8) := (Nat.succ_mul _ _).symm
    _ ≤ columns data * (depth data / 8) := Nat.mul_le_mul_right _ hx
    _ ≤ stride data := hfit

lemma cell_image (h : Accepts data) (hx : x < columns data) (hy : y < rows data) :
    (image data).cells[y * columns data + x]? = ((pixelDepth data).cells (columns data)
      (slice data (rowStart data y) (stride data)))[x]? := by
  have hcell := Image.getElem?_cells (length_pixelData_image h) (x := x) (y := y)
    (by rwa [width_image]) (by rwa [height_image])
  rwa [row_image h hy, width_image] at hcell

/-- An index is where the format says. -/
lemma cell_eq_indexAt (h : Accepts data) (h8 : depth data ≤ 8) (hx : x < columns data)
    (hy : y < rows data) :
    (image data).cells[y * columns data + x]? = some (indexAt data x y) := by
  have hd := bits_pixelDepth h.depth_mem
  rw [cell_image h hx hy, Depth.getElem?_cells_of_le (by omega) (length_row h hy) hx, hd]
  rfl

/-- A larger pixel is where the format says. -/
lemma cell_eq_word (h : Accepts data) (h8 : 8 < depth data) (hx : x < columns data)
    (hy : y < rows data) :
    (image data).cells[y * columns data + x]? = some (decode
      (slice data (rowStart data y + x * (depth data / 8)) (depth data / 8))) := by
  have hd := bits_pixelDepth h.depth_mem
  rw [cell_image h hx hy, Depth.getElem?_cells_of_lt (by omega) _ hx, hd,
    slice_slice (word_le_stride h h8 hx)]

/-- Pixels of more than 8 bits are whole bytes. -/
lemma Accepts.dvd_depth (h : Accepts data) (h8 : 8 < depth data) : 8 ∣ depth data := by
  have hmem := h.depth_mem
  simp only [List.mem_cons, List.not_mem_nil, or_false] at hmem
  omega

lemma wordAt_eq (h : Accepts data) (h8 : 8 < depth data) (x y : Nat) :
    wordAt data x y =
      decode (slice data (rowStart data y + x * (depth data / 8)) (depth data / 8)) := by
  rw [wordAt, Nat.mul_div_assoc x (h.dvd_depth h8)]

/-! ## The color of a number -/

lemma isRun_standard (n : Nat) (c : Channel) : ((ChannelMasks.standard n).get c).IsRun := by
  unfold ChannelMasks.standard
  split <;> cases c <;> decide

/-- The masks of a bitmap file are runs of bits. -/
lemma isRun_masks (h : Accepts data) (c : Channel) : ((masks data).get c).IsRun := by
  by_cases hs : scheme data = 0
  · rw [masks, if_pos hs]
    exact isRun_standard _ c
  · exact (Mask.isRunBelow_iff.1 (h.masks_run hs c)).2

lemma length_table (data : Bytes) : (table data).length = tableSize data := by simp [table]

/-- The color of an index is that of the entry at its place in the file. -/
lemma color_table (data : Bytes) (n : Nat) :
    (table data).color n =
      if n < tableSize data then
        .ok (TableEntry.ofBytes (slice data (14 + headerSize data + 4 * n) 4)).color
      else .error (.indexOutOfRange n (tableSize data)) := by
  have hlength := length_table data
  rw [ColorTable.color]
  by_cases hn : n < tableSize data
  · have hin : n * 4 + 4 ≤ 4 * tableSize data := by omega
    have hslice : slice (slice data (14 + headerSize data) (4 * tableSize data)) (n * 4) 4 =
        slice data (14 + headerSize data + 4 * n) 4 := by
      rw [slice_slice hin, Nat.mul_comm n]
    have hentry : (table data)[n]? =
        some (TableEntry.ofBytes (slice data (14 + headerSize data + 4 * n) 4)) := by
      rw [table, List.getElem?_map, getElem?_pieces hn, ← hslice]
      rfl
    rw [hentry, if_pos hn]
  · rw [List.getElem?_eq_none (by omega), if_neg hn, hlength]

/-- A color of the table is the one that stands at its place in the file. -/
lemma table_color (h : Accepts data) (h8 : depth data ≤ 8) {n : Nat} {c : Color}
    (hc : (table data).color n = .ok c) :
    n < tableSize data ∧ c.alpha = 0xff ∧
      ∃ reserved, slice data (14 + headerSize data + 4 * n) 4
        = [c.blue, c.green, c.red, reserved] := by
  rw [color_table] at hc
  split at hc
  · next hn =>
    obtain rfl := Except.ok.inj hc
    have htable := h.table_le h8
    have hbytes := tableEntry_toBytes_ofBytes
      (length_slice (show 14 + headerSize data + 4 * n + 4 ≤ data.length by omega))
    exact ⟨hn, rfl, _, hbytes.symm⟩
  · cases hc

/-- The color of a number of three bytes. -/
lemma colorOfBgr_of_bytes (red green blue : UInt8) :
    colorOfBgr (decode [blue, green, red]) = ⟨red, green, blue, 0xff⟩ := by
  have hred := ofNat_decode_div (show [blue, green, red][2]? = some red from rfl)
  have hgreen := ofNat_decode_div (show [blue, green, red][1]? = some green from rfl)
  have hblue := ofNat_decode_div (show [blue, green, red][0]? = some blue from rfl)
  rw [Nat.pow_zero, Nat.div_one] at hblue
  rw [Nat.pow_one] at hgreen
  rw [colorOfBgr, hgreen, hblue]
  exact congrArg (Color.mk · green blue 0xff) hred

/-- The color of the number that a pixel holds is the one that the format assigns to it. -/
lemma shows_of_color (h : Accepts data) (hx : x < columns data) (hy : y < rows data) {n : Nat}
    {c : Color} (hn : (image data).cells[y * columns data + x]? = some n)
    (hc : (source data).color n = .ok c) : Shows data x y c := by
  -- an index, a pixel of three bytes, or a pixel with masks
  rw [Shows]
  by_cases h8 : depth data ≤ 8
  · rw [cell_eq_indexAt h h8 hx hy, Option.some_inj] at hn
    rw [source, if_pos h8] at hc
    rw [if_pos h8, hn]
    exact table_color h h8 hc
  · rw [cell_eq_word h (by omega) hx hy, Option.some_inj] at hn
    rw [if_neg h8]
    by_cases h24 : depth data = 24
    · rw [source, if_neg h8, if_pos h24] at hc
      obtain rfl := Except.ok.inj hc
      rw [if_pos h24]
      have hbytes : slice data (rowStart data y + x * (depth data / 8)) (depth data / 8) =
          slice data (rowStart data y + 3 * x) 3 := by
        rw [h24, Nat.mul_comm]
      have hlength : (slice data (rowStart data y + 3 * x) 3).length = 3 := by
        have hword := word_le_stride h (by omega) hx
        have hrow := row_le_length h hy
        rw [h24] at hword
        exact length_slice (by omega)
      rw [hbytes] at hn
      obtain ⟨blue, green, red, hpixel⟩ := List.length_eq_three.1 hlength
      rw [hpixel] at hn ⊢
      rw [← hn, colorOfBgr_of_bytes]
      exact ⟨rfl, rfl⟩
    · rw [source, if_neg h8, if_neg h24] at hc
      obtain rfl := Except.ok.inj hc
      have hword : n = wordAt data x y := by rw [← hn, wordAt_eq h (by omega)]
      rw [if_neg h24, ← hword]
      exact ⟨Mask.level_levelOr (isRun_masks h .red) 0 n,
        Mask.level_levelOr (isRun_masks h .green) 0 n,
        Mask.level_levelOr (isRun_masks h .blue) 0 n,
        Mask.level_levelOr (isRun_masks h .alpha) 0xff n⟩

end Format

/-! ## The picture -/

namespace Image

/-- The picture of an image has its dimensions, and a color for each of its numbers. -/
lemma bitmap_eq_ok_iff {i : Image} {b : Bitmap} :
    i.bitmap = .ok b ↔ ∃ colors, List.Forall₂ (fun n c => i.source.color n = .ok c) i.cells colors ∧
      b.width = i.width ∧ b.height = i.height ∧ b.pixels = colors.flatMap Color.toBytes := by
  rw [bitmap, bind_eq_ok_iff]
  simp only [colors, mapM_eq_ok_iff, Bitmap.ofPixels_eq_ok_iff]

/-- **The pixels of a bitmap file.**  The picture has the dimensions that the file declares, and
shows in every place the color that the format assigns to it. -/
theorem bitmap_pixel_exact {i : Image} {b : Bitmap} (hread : (read data).value = .ok i)
    (hbitmap : i.bitmap = .ok b) :
    (b.width : ℤ) = Format.width data ∧ (b.height : ℤ) = |Format.height data| ∧
      ∀ x y, x < b.width → y < b.height → ∃ c, b.pixel? x y = some c ∧ Shows data x y c := by
  obtain ⟨haccepts, rfl⟩ := read_eq_ok_iff.1 hread
  obtain ⟨colors, hcolors, hwidth, hheight, hpixels⟩ := bitmap_eq_ok_iff.1 hbitmap
  rw [width_image] at hwidth
  rw [height_image] at hheight
  have hpos := haccepts.width_pos
  refine ⟨?_, ?_, fun x y hx hy => ?_⟩
  · rw [hwidth, columns]
    omega
  · rw [hheight, Format.rows, Int.natCast_natAbs]
  · have hlt : y * columns data + x < (image data).cells.length := by
      rw [length_imageCells (length_pixelData_image haccepts), width_image, height_image]
      exact mul_add_lt (hheight ▸ hy) (hwidth ▸ hx)
    have hlt' : y * columns data + x < colors.length := hcolors.length_eq ▸ hlt
    have hcolor := hcolors.get hlt hlt'
    refine ⟨colors[y * columns data + x], ?_, ?_⟩
    · exact Bitmap.pixel?_of_pixels_eq hpixels hx hy
        (by rw [hwidth]; exact List.getElem?_eq_getElem hlt')
    · exact shows_of_color haccepts (hwidth ▸ hx) (hheight ▸ hy) (List.getElem?_eq_getElem hlt)
        hcolor

/-- The picture of the sample file: its second row is stored first. -/
def samplePicture : Bitmap where
  width := 3
  height := 2
  pixels :=
    [255, 0, 0, 255, 0, 255, 0, 255, 0, 0, 255, 255,
     0, 0, 255, 255, 0, 255, 0, 255, 255, 0, 0, 255]
  width_pos := by decide
  height_pos := by decide
  length_pixels := rfl

theorem bitmap_pixel_sample :
    (read sample).value = .ok (image sample) ∧ (image sample).bitmap = .ok samplePicture ∧
      ∃ c, samplePicture.pixel? 2 1 = some c ∧ Shows sample 2 1 c :=
  ⟨rfl, rfl, (bitmap_pixel_exact rfl rfl).2.2 2 1 (by decide) (by decide)⟩

end Image

end Bmp

end Raster
