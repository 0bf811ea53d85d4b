import Raster.Limits
import Raster.Bmp.PixelFormat
import Raster.Proofs.Colors
import Raster.Proofs.Pixels
import Mathlib

/-!
# Writing and reading back

Reading the file of a bitmap gives the bitmap back, up to the alpha channel if the format does not
store it (`Bitmap.decode_encoded`).  The writer appends records and rows; the reader finds fields
and pixels by their offsets.  So the file is first brought into the terms of the format: its records
are slices of it (`slice_file_fileHeader`, `slice_file_infoHeader`, `slice_file_extension`), its
fields are those of the records, and the bytes of each pixel are where the format looks for them
(`slice_file_pixel`).  Then it is a file that the format accepts (`accepts_file`), and the number of
each pixel has the color that was written (`color_decode_store`).
-/

namespace Raster

open LittleEndian Bmp Bmp.Format

/-! ## Rows as they are written -/

namespace PixelFormat

variable {f : PixelFormat}

/-- The size of an encoded picture: the headers, with the masks if there are any, and the rows. -/
def encodedSize (f : PixelFormat) (width height : Nat) : Nat :=
  match f with
  | bgr24 => 54 + 4 * ((24 * width) ⌈/⌉ 32) * height
  | bgra32 => 70 + 4 * width * height

/-- The color that is read back for a color that was written. -/
def kept (f : PixelFormat) (c : Color) : Color :=
  match f with
  | bgr24 => { c with alpha := 0xff }
  | bgra32 => c

/-- The size that the writer declares is the size of the encoded picture. -/
lemma fileSize_eq (f : PixelFormat) (width height : Nat) :
    f.fileSize width height = f.encodedSize width height := by
  cases f with
  | bgr24 =>
    have hstride : Depth.twentyFour.stride width = 4 * ((24 * width) ⌈/⌉ 32) := by
      rw [Depth.stride, Nat.ceilDiv_eq_add_pred_div, Nat.mul_comm, Nat.mul_comm width]
      rfl
    show 54 + Depth.twentyFour.stride width * height = _
    rw [hstride]
    rfl
  | bgra32 =>
    have hstride : Depth.thirtyTwo.stride width = 4 * width := by
      show (width * 32 + 31) / 32 * 4 = 4 * width
      omega
    show 70 + Depth.thirtyTwo.stride width * height = _
    rw [hstride]
    rfl

lemma length_store (f : PixelFormat) (c : Color) : (f.store c).length = f.depth.bits / 8 := by
  cases f <;> simp [store, depth, Depth.bits]

lemma lt_bits (f : PixelFormat) : 8 < f.depth.bits := by
  cases f <;> decide

lemma length_flatMap_store (row : List Color) :
    (row.flatMap f.store).length = row.length * (f.depth.bits / 8) :=
  length_blocks fun c _ => f.length_store c

lemma length_storeRow (row : List Color) : (f.storeRow row).length = f.depth.stride row.length := by
  have hle := Depth.bytes_le_stride f.lt_bits row.length
  rw [storeRow, List.length_append, length_flatMap_store, List.length_replicate]
  omega

/-- A pixel in a written row. -/
lemma slice_storeRow {row : List Color} {x : Nat} {c : Color} (hc : row[x]? = some c)
    (rest : Bytes) :
    slice (f.storeRow row ++ rest) (x * (f.depth.bits / 8)) (f.depth.bits / 8) = f.store c := by
  obtain ⟨hx, -⟩ := List.getElem?_eq_some_iff.1 hc
  have hle : x * (f.depth.bits / 8) ≤ (row.flatMap f.store).length := by
    rw [length_flatMap_store]
    exact Nat.mul_le_mul_right _ hx.le
  rw [slice, storeRow, List.append_assoc, List.drop_append_of_le_length hle,
    drop_blocks_eq (fun c _ => f.length_store c) hc, List.append_assoc,
    List.take_left' (f.length_store c)]

/-- The info header of a written file, field by field. -/
lemma infoHeader_eq (f : PixelFormat) (width height : Nat) :
    f.infoHeader width height =
      { headerSize := .ofNat f.headerSize, width := .ofNat width, height := .ofNat height,
        planes := 1, bitsPerPixel := .ofNat f.depth.bits, compression := f.compression,
        imageSize := .ofNat (f.imageSize width height), xPixelsPerMeter := pixelsPerMeter,
        yPixelsPerMeter := pixelsPerMeter, colorsUsed := 0, colorsImportant := 0 } := rfl

end PixelFormat

/-! ## The file as the format sees it -/

namespace Bitmap

variable {b : Bitmap} {f : PixelFormat}

/-- The rows as they are written, from the bottom of the bitmap to the top. -/
def storedRows (b : Bitmap) (f : PixelFormat) : Bytes := b.rows.reverse.flatMap f.storeRow

/-- The file of a bitmap. -/
def file (b : Bitmap) (f : PixelFormat) : Bytes :=
  (f.fileHeader b.width b.height).toBytes ++ (f.infoHeader b.width b.height).toBytes
    ++ f.extension ++ b.storedRows f

lemma encode_of_fits (h : f.Fits b.width b.height) : b.encode f = .ok (b.file f) := if_pos h

lemma slice_file_fileHeader :
    slice (b.file f) 0 14 = (f.fileHeader b.width b.height).toBytes := by
  rw [slice, file, List.drop_zero, List.append_assoc, List.append_assoc]
  exact List.take_left' (FileHeader.length_toBytes _)

lemma slice_file_infoHeader :
    slice (b.file f) 14 40 = (f.infoHeader b.width b.height).toBytes := by
  rw [slice, file, List.append_assoc, List.append_assoc,
    List.drop_left' (show _ = 14 from FileHeader.length_toBytes _)]
  exact List.take_left' (InfoHeader.length_toBytes _)

lemma slice_file_extension : slice (b.file f) 54 f.extension.length = f.extension := by
  rw [slice, file, List.append_assoc, List.drop_left' (by simp [FileHeader.size, InfoHeader.size])]
  exact List.take_left

lemma drop_file : (b.file f).drop f.pixelOffset = b.storedRows f := by
  refine List.drop_left' ?_
  simp [PixelFormat.pixelOffset, PixelFormat.headerSize]

lemma length_of_mem_storedRows {row : List Color} (h : row ∈ b.rows.reverse) :
    (f.storeRow row).length = f.depth.stride b.width := by
  rw [f.length_storeRow, length_of_mem_rows (List.mem_reverse.1 h)]

lemma length_file : (b.file f).length = f.fileSize b.width b.height := by
  have hrows : (b.storedRows f).length = b.height * f.depth.stride b.width := by
    rw [storedRows, length_blocks fun _ h => length_of_mem_storedRows h, List.length_reverse,
      length_rows]
  rw [file, List.length_append, hrows]
  simp [PixelFormat.fileSize, PixelFormat.pixelOffset, PixelFormat.headerSize,
    PixelFormat.imageSize, Nat.mul_comm, Nat.add_assoc]

/-- The fields of the file header. -/
lemma fileHeader_file (h : f.Fits b.width b.height) :
    (b.file f).take 2 = [0x42, 0x4d] ∧ fileSize (b.file f) = f.fileSize b.width b.height ∧
      pixelOffset (b.file f) = f.pixelOffset := by
  have hheader : FileHeader.ofBytes (slice (b.file f) 0 14) = f.fileHeader b.width b.height := by
    rw [slice_file_fileHeader, FileHeader.ofBytes_toBytes]
  rw [fileHeader_slice] at hheader
  have hlength : 2 ≤ (b.file f).length := by
    rw [length_file, PixelFormat.fileSize, PixelFormat.pixelOffset, FileHeader.size]
    omega
  refine ⟨(u16At_eq_signature_iff hlength).1 (congrArg FileHeader.tag hheader), ?_, ?_⟩
  · refine (congrArg (fun h => h.fileSize.toNat) hheader).trans ?_
    exact UInt32.toNat_ofNat_of_lt' h.2.2
  · refine (congrArg (fun h => h.pixelOffset.toNat) hheader).trans ?_
    cases f <;> rfl

/-- The fields of the info header. -/
lemma infoHeader_file (h : f.Fits b.width b.height) :
    headerSize (b.file f) = f.headerSize ∧ Format.width (b.file f) = b.width ∧
      Format.height (b.file f) = b.height ∧ planes (b.file f) = 1 ∧
      depth (b.file f) = f.depth.bits ∧ scheme (b.file f) = f.compression.code.toNat := by
  have hheader : InfoHeader.ofBytes (slice (b.file f) 14 40) = f.infoHeader b.width b.height := by
    rw [slice_file_infoHeader, InfoHeader.ofBytes_toBytes]
  rw [infoHeader_slice _ le_rfl, f.infoHeader_eq] at hheader
  refine ⟨?_, ?_, ?_, ?_, ?_, ?_⟩
  · refine (congrArg (fun h => h.headerSize.toNat) hheader).trans ?_
    cases f <;> rfl
  · refine (congrArg (fun h => h.width.toInt) hheader).trans ?_
    exact Int32.toInt_ofNat_of_lt h.1
  · refine (congrArg (fun h => h.height.toInt) hheader).trans ?_
    exact Int32.toInt_ofNat_of_lt h.2.1
  · exact congrArg (fun h => h.planes.toNat) hheader
  · refine (congrArg (fun h => h.bitsPerPixel.toNat) hheader).trans ?_
    cases f <;> rfl
  · exact congrArg (fun h => h.compression.code.toNat) hheader

lemma columns_file (h : f.Fits b.width b.height) : columns (b.file f) = b.width := by
  obtain ⟨-, hwidth, -⟩ := infoHeader_file h
  rw [columns, hwidth, Int.natAbs_natCast]

lemma rows_file (h : f.Fits b.width b.height) : Format.rows (b.file f) = b.height := by
  obtain ⟨-, -, hheight, -⟩ := infoHeader_file h
  rw [Format.rows, hheight, Int.natAbs_natCast]

lemma stride_file (h : f.Fits b.width b.height) :
    stride (b.file f) = f.depth.stride b.width := by
  obtain ⟨-, -, -, -, hdepth, -⟩ := infoHeader_file h
  have hmem : depth (b.file f) ∈ [1, 4, 8, 16, 24, 32] := by
    rw [hdepth]
    cases f <;> decide
  rw [← depth_stride hmem, columns_file h, pixelDepth, hdepth, Depth.ofBits?_bits]
  rfl

lemma storesAlpha_file (h : PixelFormat.bgra32.Fits b.width b.height) :
    StoresAlpha (b.file .bgra32) := by
  obtain ⟨hsize, -⟩ := infoHeader_file h
  exact Or.inl (le_of_eq hsize.symm)

/-- The masks of the channels are stored after the first 40 bytes of the info header. -/
lemma masks_file (h : PixelFormat.bgra32.Fits b.width b.height) :
    masks (b.file .bgra32) = ⟨0x00ff0000, 0x0000ff00, 0x000000ff, 0xff000000⟩ := by
  obtain ⟨-, -, -, -, -, hscheme⟩ := infoHeader_file h
  have hext : slice (b.file .bgra32) 54 16 = PixelFormat.bgra32.extension := slice_file_extension
  have hword {k : Nat} (hk : k + 4 ≤ 16) :
      u32At (b.file .bgra32) (54 + k) = u32At PixelFormat.bgra32.extension k := by
    rw [← hext, u32At_slice hk]
  have hne : scheme (b.file .bgra32) ≠ 0 := by
    rw [hscheme]
    decide
  have hred := hword (show 0 + 4 ≤ 16 by omega)
  have hgreen := hword (show 4 + 4 ≤ 16 by omega)
  have hblue := hword (show 8 + 4 ≤ 16 by omega)
  have halphaMask := hword (show 12 + 4 ≤ 16 by omega)
  rw [masks_of_scheme_ne hne, if_pos (storesAlpha_file h), hred, hgreen, hblue, halphaMask]
  rfl

/-- A written file is a bitmap file. -/
lemma accepts_file (h : f.Fits b.width b.height) : Accepts (b.file f) := by
  obtain ⟨hsignature, hfileSize, hoffset⟩ := fileHeader_file h
  obtain ⟨hsize, hwidth, hheight, hplanes, hdepth, hscheme⟩ := infoHeader_file h
  have hw := b.width_pos
  have hh := b.height_pos
  have hlength := b.length_file (f := f)
  have hpixels : pixelBytes (b.file f) = f.imageSize b.width b.height := by
    rw [pixelBytes, stride_file h, rows_file h]
    rfl
  have hlong : ¬ depth (b.file f) ≤ 8 := by
    rw [hdepth, not_le]
    exact f.lt_bits
  have hend : headersEnd (b.file f) = f.pixelOffset := by
    cases f with
    | bgr24 =>
      have hzero : scheme (b.file .bgr24) = 0 := hscheme
      rw [headersEnd, if_pos hzero, tableBytes, if_neg hlong, hsize]
      rfl
    | bgra32 =>
      have hne : scheme (b.file .bgra32) ≠ 0 := by
        rw [hscheme]
        decide
      rw [headersEnd, if_neg hne, masksEnd, if_pos (storesAlpha_file h), hsize]
      rfl
  have hle : f.pixelOffset ≤ (b.file f).length := by
    rw [hlength, PixelFormat.fileSize]
    omega
  refine {
    signature := hsignature
    fileSize_le := by rw [hfileSize, hlength]
    headerSize_mem := by
      rw [hsize]
      cases f <;> decide
    header_le := by
      rw [hsize]
      exact hle
    width_pos := by omega
    height_ne := by omega
    planes_eq := hplanes
    depth_mem := by
      rw [hdepth]
      cases f <;> decide
    scheme_eq := by
      rw [hscheme, hdepth]
      cases f <;> decide
    masks_le := fun hne => ?_
    masks_run := fun hne c => ?_
    colors_le := fun h8 => absurd h8 hlong
    table_le := fun h8 => absurd h8 hlong
    headersEnd_le := by rw [hend, hoffset]
    pixels_le := by rw [hoffset, hpixels, hlength, PixelFormat.fileSize] }
  · rw [headersEnd, if_neg hne] at hend
    omega
  · cases f with
    | bgr24 => exact absurd hscheme hne
    | bgra32 =>
      rw [masks_file h, hdepth]
      cases c with
      | red => exact ⟨8, 16, by decide, rfl⟩
      | green => exact ⟨8, 8, by decide, rfl⟩
      | blue => exact ⟨8, 0, by decide, rfl⟩
      | alpha => exact ⟨8, 24, by decide, rfl⟩

/-- The bytes of a pixel are where the format looks for them. -/
lemma slice_file_pixel (h : f.Fits b.width b.height) {row : List Color} {x y : Nat} {c : Color}
    (hrow : b.rows[y]? = some row) (hc : row[x]? = some c) :
    slice (b.file f) (rowStart (b.file f) y + x * (depth (b.file f) / 8)) (depth (b.file f) / 8) =
      f.store c := by
  -- the last row of the bitmap is written first
  have hstored : b.rows.reverse[b.height - 1 - y]? = some row := by
    have hy : y < b.rows.length := (List.getElem?_eq_some_iff.1 hrow).1
    rw [length_rows] at hy
    have hsub : b.height - 1 - (b.height - 1 - y) = y := by omega
    rw [List.getElem?_reverse (by rw [length_rows]; omega), length_rows, hsub, hrow]
  obtain ⟨-, -, hoffset⟩ := fileHeader_file h
  obtain ⟨-, -, hheight, -, hdepth, -⟩ := infoHeader_file h
  have hup : ¬ Format.height (b.file f) < 0 := by
    rw [hheight, not_lt]
    exact Int.natCast_nonneg _
  have hrest := drop_blocks_eq (fun _ hmem => length_of_mem_storedRows (f := f) hmem) hstored
  have hpixel := f.slice_storeRow hc
    ((b.rows.reverse.drop (b.height - 1 - y + 1)).flatMap f.storeRow)
  rw [rowStart, if_neg hup, hoffset, rows_file h, stride_file h, hdepth, slice, Nat.add_assoc,
    ← List.drop_drop, drop_file, ← List.drop_drop, storedRows, hrest]
  exact hpixel

/-! ## The colors that are read back -/

lemma color_of_byteMasks (c : Color) :
    (⟨0x00ff0000, 0x0000ff00, 0x000000ff, 0xff000000⟩ : ChannelMasks).color
      (LittleEndian.decode [c.blue, c.green, c.red, c.alpha]) = c := by
  rw [ChannelMasks.color, Mask.levelOr_of_byte (k := 2) rfl, Mask.levelOr_of_byte (k := 1) rfl,
    Mask.levelOr_of_byte (k := 0) rfl, Mask.levelOr_of_byte (k := 3) rfl, ofNat_decode_div rfl,
    ofNat_decode_div rfl, ofNat_decode_div rfl, ofNat_decode_div rfl]

/-- The number of a pixel has the color that was written. -/
lemma color_decode_store (h : f.Fits b.width b.height) (c : Color) :
    (source (b.file f)).color (LittleEndian.decode (f.store c)) = .ok (f.kept c) := by
  obtain ⟨-, -, -, -, hdepth, -⟩ := infoHeader_file h
  have hlong : ¬ depth (b.file f) ≤ 8 := by
    rw [hdepth, not_le]
    exact f.lt_bits
  cases f with
  | bgr24 =>
    have h24 : depth (b.file .bgr24) = 24 := hdepth
    rw [source, if_neg hlong, if_pos h24]
    exact congrArg Except.ok (colorOfBgr_of_bytes c.red c.green c.blue)
  | bgra32 =>
    have h24 : ¬ depth (b.file .bgra32) = 24 := by
      rw [hdepth]
      decide
    rw [source, if_neg hlong, if_neg h24, masks_file h]
    exact congrArg Except.ok (color_of_byteMasks c)

/-- Every cell of the picture has the color that the bitmap has there. -/
lemma color_of_cell (h : f.Fits b.width b.height) {k n : Nat} {c : Color}
    (hn : (image (b.file f)).cells[k]? = some n) (hc : b.colors[k]? = some c) :
    (source (b.file f)).color n = .ok (f.kept c) := by
  have hw := b.width_pos
  have hk : k < b.height * b.width := by
    rw [← length_colors]
    exact (List.getElem?_eq_some_iff.1 hc).1
  have hy : k / b.width < b.height := Nat.div_lt_of_lt_mul (Nat.mul_comm b.height _ ▸ hk)
  have hx : k % b.width < b.width := Nat.mod_lt _ hw
  -- cell `k` is in row `k / b.width` and column `k % b.width`
  have hplace : k / b.width * b.width + k % b.width = k := Nat.div_add_mod' _ _
  have hrow := List.getElem?_eq_getElem ((b.length_rows).symm ▸ hy)
  have hcolor := getElem?_colors hrow hx
  have hlong : 8 < depth (b.file f) := by
    obtain ⟨-, -, -, -, hdepth, -⟩ := infoHeader_file h
    rw [hdepth]
    exact f.lt_bits
  have hcell := cell_eq_word (accepts_file h) hlong (x := k % b.width) (y := k / b.width)
    (by rwa [columns_file h]) (by rwa [rows_file h])
  rw [hplace, hc] at hcolor
  rw [columns_file h, hplace, slice_file_pixel h hrow hcolor.symm] at hcell
  obtain rfl := Option.some.inj (hn.symm.trans hcell)
  exact color_decode_store h c

/-- The picture of a written file has the colors that the format keeps. -/
lemma bitmap_image_file (h : f.Fits b.width b.height) {b' : Bitmap} (hwidth : b'.width = b.width)
    (hheight : b'.height = b.height)
    (hpixels : b'.pixels = (b.colors.map f.kept).flatMap Color.toBytes) :
    (image (b.file f)).bitmap = .ok b' := by
  have haccepts := accepts_file h
  refine Image.bitmap_eq_ok_iff.2 ⟨b.colors.map f.kept, ?_, ?_, ?_, hpixels⟩
  · rw [List.forall₂_map_right_iff, List.forall₂_iff_get]
    refine ⟨?_, fun k hk hk' => ?_⟩
    · rw [Image.length_imageCells (length_pixelData_image haccepts), width_image, height_image,
        columns_file h, rows_file h, length_colors]
    · rw [source_image, List.get_eq_getElem, List.get_eq_getElem]
      exact color_of_cell h (List.getElem?_eq_getElem hk) (List.getElem?_eq_getElem hk')
  · rw [hwidth, width_image, columns_file h]
  · rw [hheight, height_image, rows_file h]

/-- **Writing and reading back.**  A bitmap whose dimensions and file size fit the header fields is
written in both formats, and reading the file within limits that admit it gives the bitmap back;
only the format without an alpha channel makes all colors opaque. -/
theorem decode_encoded (b : Bitmap) (f : PixelFormat) (l : Limits)
    (hwidth : b.width ≤ 2 ^ 31 - 1) (hheight : b.height ≤ 2 ^ 31 - 1)
    (hsize : f.encodedSize b.width b.height < 2 ^ 32)
    (hmaxWidth : b.width ≤ l.maxWidth) (hmaxHeight : b.height ≤ l.maxHeight) :
    ∃ bytes, b.encode f = .ok bytes ∧ (decode l bytes).value = .ok (match f with
      | .bgr24 => b.withAlpha 0xff
      | .bgra32 => b) := by
  have hfits : f.Fits b.width b.height := by
    refine ⟨lt_of_le_of_lt hwidth (by decide), lt_of_le_of_lt hheight (by decide), ?_⟩
    rw [f.fileSize_eq]
    exact hsize
  refine ⟨b.file f, encode_of_fits hfits, ?_⟩
  have hread := Image.read_eq_ok_iff.2 ⟨accepts_file hfits, rfl⟩
  have hlimits : (image (b.file f)).width ≤ l.maxWidth ∧
      (image (b.file f)).height ≤ l.maxHeight := by
    rw [width_image, height_image, columns_file hfits, rows_file hfits]
    exact ⟨hmaxWidth, hmaxHeight⟩
  show ((Image.read (b.file f)).value >>= fun image => do
    l.checkDimensions image.width image.height
    image.bitmap) = _
  rw [hread, ok_bind, Limits.checkDimensions, require_bind hlimits]
  cases f with
  | bgr24 => exact bitmap_image_file hfits rfl rfl (pixels_withAlpha 0xff b)
  | bgra32 =>
    refine bitmap_image_file hfits rfl rfl ?_
    rw [← flatMap_colors]
    exact congrArg (List.flatMap Color.toBytes) (List.map_id _).symm

/-- A bitmap of five pixels; its rows are padded by a byte in the format without alpha channel. -/
def sample : Bitmap where
  width := 5
  height := 1
  pixels := [1, 2, 3, 4, 5, 6, 7, 8, 9, 10, 11, 12, 13, 14, 15, 16, 17, 18, 19, 20]
  width_pos := by decide
  height_pos := by decide
  length_pixels := rfl

theorem decode_encoded_sample :
    ∃ bytes, sample.encode .bgr24 = .ok bytes ∧
      (decode {} bytes).value = .ok (sample.withAlpha 0xff) :=
  decode_encoded sample .bgr24 {} (by decide) (by decide) (by decide) (by decide) (by decide)

end Bitmap

end Raster
