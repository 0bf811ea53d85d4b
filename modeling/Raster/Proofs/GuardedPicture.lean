import Raster.Proofs.Limits
import Mathlib

/-!
# Decoding on a machine

The pixels of an image get their colors without a check of their own: bytes are indexed,
differences are shifts, and channels are divided by their largest value.  `decode` has all of this
as guarded operations.  That none of them traps is a property of the images that the reader gives,
`Parsed`: the pixel array has all its rows, the masks are runs of bits, and the bits of a pixel are
those of its depth.  The three kinds of rows are compared with the numbers of their pixels one by
one (`indexedRow_eq_refuse`, `directRow_eq_refuse`, `maskedRow_eq_refuse`).

What the reader does not bound is the room for the picture, four bytes for each pixel, which is
asked for before the first row.  A pixel can be stored in a single bit, so a file of `2 ^ 59` bytes
can hold a picture that is larger than `maxCapacity` (`decode_huge_traps`).  That is the only trap
(`decode_traps_iff`), and neither shorter files nor smaller limits get there
(`not_oversized_of_length_lt`, `not_oversized_of_limits`).
-/

namespace Raster.Machine

open LittleEndian Bmp

/-! ## Channels -/

/-- The lowest bit and the largest value of a channel, if there is such a channel. -/
def channel (m : Mask) : Except Stop (Option (Nat × Nat)) :=
  if m = 0 then .ok none
  else do
    let run ← shiftRight 32 m.toNat m.shift
    let power ← shiftLeft 64 1 ((List.range 32).countP run.testBit)
    let largest ← sub power 1
    return some (m.shift, largest)

/-- The level of a channel in a pixel. -/
def level (m : Mask) (absent : UInt8) (pixel : Nat) : Option (Nat × Nat) → Except Stop UInt8
  | none => .ok absent
  | some (shift, largest) => do
    let value ← shiftRight 32 (pixel &&& m.toNat) shift
    let scaled ← mul 64 value 255
    let rounded ← add 64 scaled (largest / 2)
    let quotient ← div rounded largest
    return .ofNat quotient

/-! ## Rows -/

/-- The number of the stored row that is row `y` of the picture. -/
def rowIndex (i : Image) (y : Nat) : Except Stop Nat :=
  if i.topDown then .ok y
  else do
    let last ← sub i.height 1
    sub last y

def rowAt (i : Image) (y : Nat) : Except Stop Bytes := do
  let index ← rowIndex i y
  let start ← mul 64 index i.stride
  let rest ← dropFirst i.pixelData start
  takeFirst rest i.stride

/-- The color of the pixel in column `x`, an index of `bpp` bits. -/
def indexedPixel (table : ColorTable) (bpp perByte mask : Nat) (row : Bytes) (x : Nat) :
    Except Stop Color := do
  let place ← rem x perByte
  let next ← add 64 place 1
  let used ← mul 64 bpp next
  let shift ← sub 8 used
  let position ← div x perByte
  let byte ← byteAt row position
  let shifted ← shiftRight 8 byte.toNat shift
  refuse (table.color (shifted &&& mask))

def indexedRow (table : ColorTable) (bpp width : Nat) (row : Bytes) :
    Except Stop (List Color) := do
  let perByte ← div 8 bpp
  let unused ← sub 8 bpp
  let mask ← shiftRight 16 0xff unused
  (List.range width).mapM (indexedPixel table bpp perByte mask row)

def directRow (width : Nat) (row : Bytes) : Except Stop (List Color) := do
  let whole ← wholePieces 3 row
  (whole.take width).mapM fun bytes => do
    let red ← byteAt bytes 2
    let green ← byteAt bytes 1
    let blue ← byteAt bytes 0
    return ⟨red, green, blue, 0xff⟩

/-- The number that two or four bytes hold. -/
def word : Bytes → Except Stop Nat
  | [a, b] => .ok (LittleEndian.decode [a, b])
  | [a, b, c, d] => .ok (LittleEndian.decode [a, b, c, d])
  | _ => .error (.trap .unreachable)

def maskedRow (masks : ChannelMasks) (bpp width : Nat) (row : Bytes) :
    Except Stop (List Color) := do
  let red ← channel masks.red
  let green ← channel masks.green
  let blue ← channel masks.blue
  let alpha ← channel masks.alpha
  let whole ← wholePieces (bpp / 8) row
  (whole.take width).mapM fun bytes => do
    let pixel ← word bytes
    let red ← level masks.red 0 pixel red
    let green ← level masks.green 0 pixel green
    let blue ← level masks.blue 0 pixel blue
    let alpha ← level masks.alpha 0xff pixel alpha
    return ⟨red, green, blue, alpha⟩

/-- The colors of a row; a number of bits that no depth has is not expected here. -/
def rowColors (i : Image) (y : Nat) : Except Stop (List Color) := do
  let row ← rowAt i y
  let bpp := i.infoHeader.bitsPerPixel.toNat
  match bpp with
  | 1 | 4 | 8 => indexedRow i.colorTable bpp i.width row
  | 24 => directRow i.width row
  | 16 | 32 => maskedRow i.masks bpp i.width row
  | _ => .error (.trap .unreachable)

/-! ## The picture -/

def fromPixels (width height : Nat) (pixels : Bytes) : Except Stop Bitmap := do
  let count ← mul 64 width height
  let _ ← mul 64 count 4
  refuse (Bitmap.ofPixels width height pixels)

/-- The picture of an image, appended row by row to a list with room for all of its bytes. -/
def picture (i : Image) : Except Stop Bitmap := do
  let count ← mul 64 i.width i.height
  let size ← mul 64 count 4
  allocate size
  let rows ← (List.range i.height).mapM (rowColors i)
  fromPixels i.width i.height (rows.flatten.flatMap Color.toBytes)

def decode (limits : Limits) (data : Bytes) : Except Stop Bitmap := do
  let image ← parse data
  refuse (limits.checkDimensions image.width image.height)
  picture image

/-! ## What the reader establishes -/

/-- An image as the reader gives it. -/
structure Parsed (i : Image) : Prop where
  bits_eq : i.infoHeader.bitsPerPixel.toNat = i.depth.bits
  source_eq : i.source =
    if i.depth.bits ≤ 8 then .table i.colorTable
    else if i.depth.bits = 24 then .direct
    else .masks i.masks
  length_eq : i.pixelData.length = i.stride * i.height
  masks_run : ∀ c, (i.masks.get c).IsRun
  width_pos : 0 < i.width
  width_lt : i.width < 2 ^ 31
  height_pos : 0 < i.height
  height_le : i.height ≤ 2 ^ 31

lemma parsed_image {data : Bytes} (h : Format.Accepts data) : Parsed (Format.image data) := by
  have hwidth := h.width_pos
  have hheight := h.height_ne
  refine {
    bits_eq := ?_
    source_eq := ?_
    length_eq := Format.length_pixelData_image h
    masks_run := fun c => ?_
    width_pos := ?_
    width_lt := ?_
    height_pos := ?_
    height_le := rows_le _ }
  · have hbits : (Format.image data).infoHeader.bitsPerPixel.toNat = Format.depth data := by
      show (InfoHeader.ofBytes (Format.slice data 14 40)).bitsPerPixel.toNat = _
      rw [Format.infoHeader_slice data le_rfl]
      rfl
    rw [hbits, Format.depth_image h]
  · rw [Format.depth_image h, Format.masks_image h, Format.source_image]
    by_cases h8 : Format.depth data ≤ 8
    · rw [if_pos h8, Format.colorTable_of_le h8, Format.source, if_pos h8]
    · rw [if_neg h8, Format.source, if_neg h8]
  · rw [Format.masks_image h]
    exact Format.isRun_masks h c
  · rw [Format.width_image]
    exact h.columns_pos
  · rw [Format.width_image, Format.columns]
    have hlt := (u32At data 18).toInt32.toInt_lt
    rw [Format.width] at hwidth ⊢
    omega
  · rw [Format.height_image, Format.rows]
    omega

/-! ## Channels do not trap -/

lemma channel_eq {m : Mask} (h : m.IsRun) :
    channel m = .ok (if m = 0 then none else some (m.shift, m.largest)) := by
  rw [channel]
  by_cases hm : m = 0
  · rw [if_pos hm, if_pos hm]
  · obtain ⟨b, s, hb, hrun⟩ := Mask.exists_run h hm
    have hle := Mask.run_le hrun hb
    have hshift := Mask.shift_of_run hrun hb
    -- shifted down, the run starts at position 0
    have hdown : m.toNat >>> m.shift = (2 ^ b - 1) * 2 ^ 0 := by
      rw [hrun, hshift, Nat.shiftRight_eq_div_pow, Nat.mul_div_cancel _ (by positivity),
        Nat.pow_zero, Nat.mul_one]
    have hcount : (List.range 32).countP (m.toNat >>> m.shift).testBit = b := by
      rw [hdown, Mask.countP_run]
      omega
    have hpower : (1 <<< b) % 2 ^ 64 = 2 ^ b := by
      rw [Nat.one_shiftLeft]
      exact Nat.mod_eq_of_lt (Nat.pow_lt_pow_right (by norm_num) (by omega))
    have hone : 1 ≤ 2 ^ b := Nat.one_le_two_pow
    rw [if_neg hm, if_neg hm, shiftRight, guarded_of (by omega), ok_bind, hcount, shiftLeft,
      guarded_of (by omega), ok_bind, hpower, sub, guarded_of hone, Mask.largest_of_run hrun hb]
    rfl

/-- The largest value of a channel is a divisor. -/
lemma largest_pos {m : Mask} (h : m.IsRun) (hm : m ≠ 0) : 0 < m.largest ∧ m.largest < 2 ^ 32 := by
  obtain ⟨b, s, hb, hrun⟩ := Mask.exists_run h hm
  have hle := Mask.run_le hrun hb
  have htwo : 2 ≤ 2 ^ b := Nat.le_self_pow (Nat.ne_of_gt hb) 2
  have hpow : 2 ^ b ≤ 2 ^ 32 := Nat.pow_le_pow_right (by norm_num) (by omega)
  rw [Mask.largest_of_run hrun hb]
  omega

lemma level_eq {m : Mask} (h : m.IsRun) (absent : UInt8) {pixel : Nat} (hpixel : pixel < 2 ^ 32) :
    level m absent pixel (if m = 0 then none else some (m.shift, m.largest)) =
      .ok (m.levelOr absent pixel) := by
  by_cases hm : m = 0
  · rw [if_pos hm, Mask.levelOr, if_pos hm]
    rfl
  · obtain ⟨b, s, hb, hrun⟩ := Mask.exists_run h hm
    have hle := Mask.run_le hrun hb
    have hshift := Mask.shift_of_run hrun hb
    obtain ⟨hpos, hlargest⟩ := largest_pos h hm
    have hvalue : (pixel &&& m.toNat) >>> m.shift < 2 ^ 32 := by
      calc (pixel &&& m.toNat) >>> m.shift ≤ pixel &&& m.toNat := Nat.shiftRight_le _ _
        _ ≤ pixel := Nat.and_le_left
        _ < 2 ^ 32 := hpixel
    rw [if_neg hm, Mask.levelOr, if_neg hm, level, shiftRight, guarded_of (by omega), ok_bind, mul,
      guarded_of (by omega), ok_bind, add, guarded_of (by omega), ok_bind, div,
      guarded_of (Nat.ne_of_gt hpos)]
    rfl

/-! ## Rows do not trap -/

lemma rowIndex_eq {i : Image} {y : Nat} (hy : y < i.height) :
    rowIndex i y = .ok (i.storedIndex y) := by
  rw [rowIndex, Image.storedIndex]
  split
  · rfl
  · rw [sub, guarded_of (by omega), ok_bind, sub, guarded_of (by omega)]

lemma rowAt_eq {i : Image} (h : Parsed i) {y : Nat} (hy : y < i.height) :
    rowAt i y = .ok (Format.slice i.pixelData (i.storedIndex y * i.stride) i.stride) := by
  have hstored := Image.storedIndex_lt hy
  have hend := Image.storedIndex_end h.length_eq hy
  have hstart : i.storedIndex y * i.stride < 2 ^ 64 := by
    have hstride : i.stride ≤ 4 * i.width := stride_le i.depth i.width
    have hwidth := h.width_lt
    have hheight := h.height_le
    have hle : i.storedIndex y * i.stride ≤ 2 ^ 31 * (4 * (2 ^ 31 - 1)) :=
      Nat.mul_le_mul (by omega) (by omega)
    omega
  have hrest : i.stride ≤ (i.pixelData.drop (i.storedIndex y * i.stride)).length := by
    rw [List.length_drop]
    omega
  rw [rowAt, rowIndex_eq hy, ok_bind, mul, guarded_of hstart, ok_bind, dropFirst,
    guarded_of (by omega), ok_bind, takeFirst, guarded_of hrest]
  rfl

/-- The low bits of a byte, as a mask of the byte selects them. -/
lemma and_unused {n bits : Nat} (hpos : 0 < bits) (h8 : bits ≤ 8) :
    n &&& (0xff >>> (8 - bits)) = n % 2 ^ bits := by
  have hmask : 0xff >>> (8 - bits) = 2 ^ bits - 1 := by
    interval_cases bits <;> rfl
  rw [hmask, Nat.and_two_pow_sub_one_eq_mod]

/-- Every index of a row is found in one of its bytes. -/
lemma indexedRow_eq_refuse {d : Depth} (h8 : d.bits ≤ 8) {width : Nat} (hwidth : width < 2 ^ 31)
    {row : Bytes} (hrow : row.length = d.stride width) (table : ColorTable) :
    indexedRow table d.bits width row = refuse ((d.cells width row).mapM table.color) := by
  have hpos := d.bits_pos
  have hper : 8 / d.bits ≠ 0 := Nat.ne_of_gt (Nat.div_pos h8 hpos)
  rw [indexedRow, div, guarded_of (Nat.ne_of_gt hpos), ok_bind, sub, guarded_of h8, ok_bind,
    shiftRight, guarded_of (by omega), ok_bind]
  refine mapM_range_eq_refuse (Depth.length_cells hrow) fun x n hn => ?_
  have hx : x < width := by
    rw [← Depth.length_cells hrow]
    exact (List.getElem?_eq_some_iff.1 hn).1
  have hbyte : x / (8 / d.bits) < row.length := hrow ▸ Depth.div_lt_stride h8 hx
  have hget := List.getElem?_eq_getElem hbyte
  have hle := Depth.bits_mul_le h8 x
  -- the shift is narrower than a byte because the pixel has at least one bit
  have hused : 0 < d.bits * (x % (8 / d.bits) + 1) := Nat.mul_pos hpos (Nat.succ_pos _)
  have hmod : x % (8 / d.bits) ≤ x := Nat.mod_le _ _
  rw [Depth.getElem?_cells_byte h8 hx hget, Option.some_inj] at hn
  rw [indexedPixel, rem, guarded_of hper, ok_bind, add, guarded_of (by omega), ok_bind, mul,
    guarded_of (by omega), ok_bind, sub, guarded_of hle, ok_bind, div, guarded_of hper, ok_bind,
    byteAt_eq hget, ok_bind, shiftRight, guarded_of (by omega), ok_bind, and_unused hpos h8,
    Nat.shiftRight_eq_div_pow, hn]

/-- A row that is long enough has a whole piece for each of its pixels. -/
lemma wholePieces_take {size width : Nat} {row : Bytes} (hsize : 0 < size)
    (hrow : width * size ≤ row.length) :
    ∃ whole, wholePieces size row = .ok whole ∧ whole.take width = pieces width size row :=
  ⟨_, guarded_of (Nat.ne_of_gt hsize), take_pieces ((Nat.le_div_iff_mul_le hsize).2 hrow) size row⟩

lemma directRow_eq_refuse {width : Nat} {row : Bytes} (hrow : width * 3 ≤ row.length) :
    directRow width row =
      refuse ((Depth.twentyFour.cells width row).mapM ColorSource.direct.color) := by
  obtain ⟨whole, hwhole, htake⟩ := wholePieces_take (by norm_num) hrow
  have hcells : Depth.twentyFour.cells width row =
      (pieces width 3 row).map LittleEndian.decode := rfl
  rw [directRow, hwhole, ok_bind, htake, hcells, List.mapM_map]
  refine mapM_eq_refuse (List.forall₂_same.2 fun bytes hbytes => ?_)
  obtain ⟨blue, green, red, rfl⟩ := List.length_eq_three.1 (length_of_mem_pieces hrow hbytes)
  rw [byteAt_eq (b := red) rfl, byteAt_eq (b := green) rfl, byteAt_eq (b := blue) rfl]
  exact congrArg Except.ok (Format.colorOfBgr_of_bytes red green blue).symm

lemma word_eq {bytes : Bytes} (h : bytes.length = 2 ∨ bytes.length = 4) :
    word bytes = .ok (LittleEndian.decode bytes) ∧ LittleEndian.decode bytes < 2 ^ 32 := by
  have hlt := decode_lt bytes
  rcases h with h | h
  · rw [h] at hlt
    obtain ⟨a, b, rfl⟩ := List.length_eq_two.1 h
    exact ⟨rfl, hlt.trans (by decide)⟩
  · rw [h] at hlt
    obtain ⟨a, b, c, d, rfl⟩ := List.length_eq_four.1 h
    exact ⟨rfl, hlt.trans_le (by decide)⟩

lemma maskedRow_eq_refuse {d : Depth} (hd : d.bits = 16 ∨ d.bits = 32) {width : Nat} {row : Bytes}
    (hrow : width * (d.bits / 8) ≤ row.length) {masks : ChannelMasks}
    (hmasks : ∀ c, (masks.get c).IsRun) :
    maskedRow masks d.bits width row =
      refuse ((d.cells width row).mapM (ColorSource.masks masks).color) := by
  have hsize : d.bits / 8 = 2 ∨ d.bits / 8 = 4 := by omega
  have hcells : d.cells width row = (pieces width (d.bits / 8) row).map LittleEndian.decode :=
    if_neg (mt Depth.isIndexed_iff.1 (by omega))
  have hred : masks.red.IsRun := hmasks .red
  have hgreen : masks.green.IsRun := hmasks .green
  have hblue : masks.blue.IsRun := hmasks .blue
  have halpha : masks.alpha.IsRun := hmasks .alpha
  obtain ⟨whole, hwhole, htake⟩ := wholePieces_take (by omega) hrow
  rw [maskedRow, channel_eq hred, ok_bind, channel_eq hgreen, ok_bind, channel_eq hblue, ok_bind,
    channel_eq halpha, ok_bind, hwhole, ok_bind, htake, hcells, List.mapM_map]
  refine mapM_eq_refuse (List.forall₂_same.2 fun bytes hbytes => ?_)
  have hlength := length_of_mem_pieces hrow hbytes
  obtain ⟨hword, hlt⟩ := word_eq (hlength ▸ hsize)
  rw [hword, ok_bind, level_eq hred 0 hlt, ok_bind, level_eq hgreen 0 hlt, ok_bind,
    level_eq hblue 0 hlt, ok_bind, level_eq halpha 0xff hlt]
  rfl

/-- Every row of the picture gets its colors. -/
lemma rowColors_eq_refuse {i : Image} (h : Parsed i) {y : Nat} {row : Bytes}
    (hrow : i.rows[y]? = some row) :
    rowColors i y = refuse ((i.depth.cells i.width row).mapM i.source.color) := by
  have hy : y < i.height := by
    rw [← i.length_rows]
    exact (List.getElem?_eq_some_iff.1 hrow).1
  have hlength : row.length = i.depth.stride i.width :=
    Image.length_row h.length_eq (List.mem_of_getElem? hrow)
  have hbytes : 8 < i.depth.bits → i.width * (i.depth.bits / 8) ≤ row.length := by
    intro h8
    rw [hlength]
    exact Depth.bytes_le_stride h8 i.width
  rw [Image.getElem?_rows hy, Option.some_inj] at hrow
  rw [rowColors, rowAt_eq h hy, ok_bind, hrow, h.bits_eq, h.source_eq]
  cases hd : i.depth with
  | one | four | eight =>
    rw [hd] at hlength
    exact indexedRow_eq_refuse (by decide) h.width_lt hlength i.colorTable
  | twentyFour =>
    rw [hd] at hbytes
    exact directRow_eq_refuse (hbytes (by decide))
  | sixteen =>
    rw [hd] at hbytes
    exact maskedRow_eq_refuse (Or.inl rfl) (hbytes (by decide)) h.masks_run
  | thirtyTwo =>
    rw [hd] at hbytes
    exact maskedRow_eq_refuse (Or.inr rfl) (hbytes (by decide)) h.masks_run

/-! ## The picture does not trap -/

/-- The colors of a picture, row by row. -/
lemma bitmap_eq_bind (i : Image) :
    i.bitmap = (i.rows.mapM fun row => (i.depth.cells i.width row).mapM i.source.color) >>=
      fun rows => Bitmap.ofPixels i.width i.height (rows.flatten.flatMap Color.toBytes) := by
  rw [Image.bitmap, Image.colors, Image.cells, mapM_flatMap, bind_assoc]
  rfl

/-- The number of bytes of a picture has 64 bits. -/
lemma area_lt {i : Image} (h : Parsed i) : i.width * i.height * 4 < 2 ^ 64 := by
  have hwidth := h.width_lt
  have harea : i.width * i.height ≤ (2 ^ 31 - 1) * 2 ^ 31 :=
    Nat.mul_le_mul (by omega) h.height_le
  omega

/-- The picture of an image if there is room for it. -/
lemma picture_of_room {i : Image} (h : Parsed i) (hroom : i.width * i.height * 4 ≤ maxCapacity) :
    picture i = refuse i.bitmap := by
  have harea := area_lt h
  rw [picture, mul, guarded_of (by omega), ok_bind, mul, guarded_of harea, ok_bind, allocate,
    guarded_of hroom, ok_bind, bitmap_eq_bind]
  refine refuse_bind_congr ?_ fun rows _ => ?_
  · exact mapM_range_eq_refuse i.length_rows fun y row hrow => rowColors_eq_refuse h hrow
  · rw [fromPixels, mul, guarded_of (by omega), ok_bind, mul, guarded_of harea]
    rfl

/-- Without room for the picture no row is looked at. -/
lemma picture_of_no_room {i : Image} (h : Parsed i)
    (hroom : ¬ i.width * i.height * 4 ≤ maxCapacity) :
    picture i = .error (.trap .capacity) := by
  have harea := area_lt h
  rw [picture, mul, guarded_of (by omega), ok_bind, mul, guarded_of harea, ok_bind, allocate,
    guarded_of_not hroom]
  rfl

/-- The bounds that decoding relies on: the rows are within the pixel array, the bytes of indices
within their rows, channels have divisors, larger pixels are whole pieces of their rows, the bits of
a pixel are those of a depth, and the colors make up a bitmap. -/
structure Safe (i : Image) : Prop where
  row_le : ∀ y < i.height, i.storedIndex y * i.stride + i.stride ≤ i.pixelData.length
  byte_lt : i.depth.bits ≤ 8 → ∀ x < i.width, x / (8 / i.depth.bits) < i.stride
  divisor_pos : ∀ c, i.masks.get c ≠ 0 → 0 < (i.masks.get c).largest
  length_whole : 8 < i.depth.bits → ∀ row ∈ i.rows, ∃ whole,
    wholePieces (i.depth.bits / 8) row = .ok whole ∧ (whole.take i.width).length = i.width
  bits_mem : i.infoHeader.bitsPerPixel.toNat ∈ [1, 4, 8, 16, 24, 32]
  ofPixels_ok : ∀ colors, i.colors = .ok colors →
    ∃ b, Bitmap.ofPixels i.width i.height (colors.flatMap Color.toBytes) = .ok b

lemma safe_of_parsed {i : Image} (h : Parsed i) : Safe i where
  row_le y hy := Image.storedIndex_end h.length_eq hy
  byte_lt h8 x hx := Depth.div_lt_stride h8 hx
  divisor_pos c hc := (largest_pos (h.masks_run c) hc).1
  length_whole := by
    intro h8 row hrow
    have hlength : row.length = i.depth.stride i.width := Image.length_row h.length_eq hrow
    have hle := hlength ▸ Depth.bytes_le_stride h8 i.width
    obtain ⟨whole, hwhole, htake⟩ := wholePieces_take (by omega) hle
    refine ⟨whole, hwhole, ?_⟩
    rw [htake, length_pieces]
  bits_mem := by
    rw [h.bits_eq]
    cases i.depth <;> decide
  ofPixels_ok := by
    intro colors hcolors
    have hlength := (mapM_eq_ok_iff.1 hcolors).length_eq
    rw [Image.length_imageCells h.length_eq] at hlength
    refine ⟨⟨i.width, i.height, colors.flatMap Color.toBytes, h.width_pos, h.height_pos, ?_⟩,
      Bitmap.ofPixels_eq_ok_iff.2 ⟨rfl, rfl, rfl⟩⟩
    rw [length_blocks fun c _ => c.length_toBytes, ← hlength, Nat.mul_comm i.height]

/-! ## Pictures without room -/

/-- A file with a picture that is within the limits and has more bytes than can be asked for. -/
def Oversized (limits : Limits) (data : Bytes) : Prop :=
  ∃ i, (Image.read data).value = .ok i ∧ limits.Admits i.width i.height ∧
    maxCapacity < i.width * i.height * 4

variable {limits : Limits} {data : Bytes}

lemma parsed_of_read {i : Image} (hread : (Image.read data).value = .ok i) : Parsed i := by
  obtain ⟨haccepts, rfl⟩ := Image.read_eq_ok_iff.1 hread
  exact parsed_image haccepts

lemma decode_of_not_oversized (h : data.length < 2 ^ 63) (hsize : ¬ Oversized limits data) :
    decode limits data = refuse (Bitmap.decode limits data).value := by
  refine refuse_bind_congr (parse_eq_refuse h) fun i hread => ?_
  refine refuse_bind_congr rfl fun _ hlimits => picture_of_room (parsed_of_read hread) ?_
  by_contra hroom
  exact hsize ⟨i, hread, require_eq_ok_iff.1 hlimits, not_le.1 hroom⟩

lemma decode_of_oversized (h : data.length < 2 ^ 63) (hsize : Oversized limits data) :
    decode limits data = .error (.trap .capacity) := by
  obtain ⟨i, hread, hlimits, hroom⟩ := hsize
  have hcheck : limits.checkDimensions i.width i.height = .ok () := require_eq_ok_iff.2 hlimits
  rw [decode, parse_eq_refuse h, hread, refuse_ok, ok_bind, hcheck, refuse_ok, ok_bind,
    picture_of_no_room (parsed_of_read hread) (not_le.2 hroom)]

/-- A pixel takes at least one bit of the file and exactly four bytes of the picture. -/
lemma not_oversized_of_length_lt (h : data.length < 2 ^ 58) : ¬ Oversized limits data := by
  rintro ⟨i, hread, -, hroom⟩
  obtain ⟨haccepts, rfl⟩ := Image.read_eq_ok_iff.1 hread
  set i := Format.image data
  have hpixels : i.stride * i.height ≤ data.length := by
    have hlength := Format.length_pixelData_image haccepts
    have hle : (Format.slice data (Format.pixelOffset data) (Format.pixelBytes data)).length ≤
        data.length := by
      rw [Format.slice, List.length_take, List.length_drop]
      omega
    rw [← hlength]
    exact hle
  have hwidth : i.width ≤ 8 * i.stride :=
    calc i.width ≤ i.width * i.depth.bits := Nat.le_mul_of_pos_right _ i.depth.bits_pos
      _ ≤ 8 * i.stride := i.depth.bits_le_stride i.width
  have harea : i.width * i.height ≤ 8 * (i.stride * i.height) := by
    rw [← Nat.mul_assoc]
    exact Nat.mul_le_mul_right _ hwidth
  rw [maxCapacity] at hroom
  omega

lemma not_oversized_of_limits (h : limits.maxWidth * limits.maxHeight * 4 ≤ maxCapacity) :
    ¬ Oversized limits data := by
  rintro ⟨i, -, ⟨hwidth, hheight⟩, hroom⟩
  have harea := Nat.mul_le_mul hwidth hheight
  omega

/-- **When decoding traps.**  On data of fewer than `2 ^ 63` bytes the only trap of the machine is
the one for room that cannot be given, which it meets if and only if the file has a picture within
the limits whose bytes are more than can be asked for.  Otherwise it gives the same bitmap or
refuses with the same error as decoding on numbers; so it does on all data of fewer than `2 ^ 58`
bytes, and under limits that leave room for their largest picture.  Every image that is read meets
the bounds that decoding relies on. -/
theorem decode_traps_iff (limits : Limits) (data : Bytes) (h : data.length < 2 ^ 63) :
    (∀ t, decode limits data = .error (.trap t) ↔ t = .capacity ∧ Oversized limits data) ∧
      (¬ Oversized limits data → decode limits data = refuse (Bitmap.decode limits data).value) ∧
      (data.length < 2 ^ 58 ∨ limits.maxWidth * limits.maxHeight * 4 ≤ maxCapacity →
        decode limits data = refuse (Bitmap.decode limits data).value ∧
          ∀ t, decode limits data ≠ .error (.trap t)) ∧
      ∀ i, (Image.read data).value = .ok i → Safe i := by
  refine ⟨fun t => ⟨fun htrap => ?_, ?_⟩, decode_of_not_oversized h, fun hbound => ?_,
    fun i hread => safe_of_parsed (parsed_of_read hread)⟩
  · by_cases hsize : Oversized limits data
    · rw [decode_of_oversized h hsize] at htrap
      cases htrap
      exact ⟨rfl, hsize⟩
    · rw [decode_of_not_oversized h hsize] at htrap
      exact (refuse_ne_trap _ t htrap).elim
  · rintro ⟨rfl, hsize⟩
    exact decode_of_oversized h hsize
  · have hdecode := decode_of_not_oversized h
      (hbound.elim not_oversized_of_length_lt not_oversized_of_limits)
    refine ⟨hdecode, fun t => ?_⟩
    rw [hdecode]
    exact refuse_ne_trap _ t

theorem decode_traps_iff_sample :
    decode {} Image.sample = .ok Image.samplePicture ∧ Safe (Format.image Image.sample) :=
  have hsafe := decode_traps_iff {} Image.sample (by decide)
  ⟨(hsafe.2.2.1 (Or.inl (by decide))).1.trans rfl, hsafe.2.2.2 _ rfl⟩

/-! ### A picture without room -/

/-- The headers of a picture with `2 ^ 31 - 1` columns and `2 ^ 31` rows of one bit for each pixel,
and a color table of one entry. -/
def hugeHeaders : Bytes :=
  [0x42, 0x4d, 0, 0, 0, 0, 0, 0, 0, 0, 58, 0, 0, 0,
   40, 0, 0, 0, 0xff, 0xff, 0xff, 0x7f, 0, 0, 0, 0x80, 1, 0, 1, 0, 0, 0, 0, 0,
   0, 0, 0, 0, 0, 0, 0, 0, 0, 0, 0, 0, 1, 0, 0, 0, 0, 0, 0, 0, 0, 0, 0, 0]

/-- A file with this picture, whose pixels all have an index that is not in the table. -/
def huge : Bytes := hugeHeaders ++ List.replicate (2 ^ 59) 0xff

lemma length_huge : huge.length = 58 + 2 ^ 59 := by
  rw [huge, List.length_append, List.length_replicate]
  rfl

/-- The headers are those of a bitmap file, and the pixel array of such a file ends where the data
ends. -/
lemma accepts_huge : Format.Accepts huge := by
  have hfields : Format.SameFields hugeHeaders huge := Format.sameFields_append _ (by decide)
  have hdepth : Format.depth huge = 1 := hfields.depth_eq.trans rfl
  have hscheme : Format.scheme huge = 0 := hfields.scheme_eq.trans rfl
  have hheader : Format.headerSize huge = 40 := hfields.headerSize_eq.trans rfl
  have htable : Format.tableSize huge = 1 := (hfields.tableSize_eq (by decide)).trans rfl
  have hoffset : Format.pixelOffset huge = 58 := hfields.pixelOffset_eq.trans rfl
  have hpixels : Format.pixelBytes huge = 2 ^ 59 :=
    hfields.pixelBytes_eq.trans (by decide +kernel)
  have hlength := length_huge
  refine {
    signature := rfl
    fileSize_le := ?_
    headerSize_mem := ?_
    header_le := ?_
    width_pos := ?_
    height_ne := ?_
    planes_eq := hfields.planes_eq.trans rfl
    depth_mem := ?_
    scheme_eq := Or.inl hscheme
    masks_le := fun h => (h hscheme).elim
    masks_run := fun h => (h hscheme).elim
    colors_le := fun h8 => ?_
    table_le := fun _ => ?_
    headersEnd_le := ?_
    pixels_le := ?_ }
  · have hsize : Format.fileSize huge = 0 := (Format.fileSize_append _ (by decide)).trans rfl
    omega
  · rw [hheader]
    decide
  · omega
  · rw [hfields.width_eq]
    decide
  · rw [hfields.height_eq]
    decide
  · rw [hdepth]
    decide
  · rw [hfields.colorsUsed_eq h8, hdepth]
    decide
  · omega
  · rw [Format.headersEnd, if_pos hscheme, hheader, Format.tableBytes, hdepth, if_pos (by decide),
      htable, hoffset]
  · omega

lemma oversized_huge : Oversized .unlimited huge := by
  have hfields : Format.SameFields hugeHeaders huge := Format.sameFields_append _ (by decide)
  have hcolumns : Format.columns huge = 2 ^ 31 - 1 := hfields.columns_eq.trans rfl
  have hrows : Format.rows huge = 2 ^ 31 := hfields.rows_eq.trans rfl
  refine ⟨_, Image.read_eq_ok_iff.2 ⟨accepts_huge, rfl⟩, Limits.unlimited_admits _, ?_⟩
  rw [Format.width_image, Format.height_image, hcolumns, hrows]
  decide

/-- There is data of fewer than `2 ^ 63` bytes on which decoding traps. -/
theorem decode_huge_traps :
    huge.length < 2 ^ 63 ∧ decode .unlimited huge = .error (.trap .capacity) := by
  have hlength : huge.length < 2 ^ 63 := by
    rw [length_huge]
    decide
  exact ⟨hlength, decode_of_oversized hlength oversized_huge⟩

end Raster.Machine
