import Raster.Proofs.RoundTrip
import Mathlib

/-!
# The bytes of a written file

Reading a written file back does not tell where its bytes are: a writer and a reader could be wrong
in the same way.  `Written` lists where everything is in the file of a bitmap, in numbers that the
writer does not compute: the headers end at byte 54 or 70, a pixel has three or four bytes, and a
row is as long as its pixels, rounded up to a multiple of four.  A file that the writer gives is
laid out in this way, and the reader takes it without a warning (`Bitmap.encode_written`).
-/

namespace Raster

open LittleEndian Bmp Bmp.Format

/-! ## The layout -/

namespace PixelFormat

/-- The number of bytes of a pixel. -/
def pixelBytes : PixelFormat → Nat
  | bgr24 => 3
  | bgra32 => 4

/-- Where the headers end and the pixel array starts. -/
def headersEnd : PixelFormat → Nat
  | bgr24 => 54
  | bgra32 => 70

/-- The number of bytes of a row of some pixels. -/
def rowBytes (f : PixelFormat) (width : Nat) : Nat := 4 * ((width * f.pixelBytes) ⌈/⌉ 4)

/-- The bytes of a pixel, in the order in which they are stored. -/
def channels (f : PixelFormat) (c : Color) : Bytes :=
  match f with
  | bgr24 => [c.blue, c.green, c.red]
  | bgra32 => [c.blue, c.green, c.red, c.alpha]

end PixelFormat

/-- Some bytes are the file of a bitmap in a format: every size that they declare is the real one,
the pixels are where the format says, from the bottom row to the top, and the padding is zero. -/
structure Written (b : Bitmap) (f : PixelFormat) (bytes : Bytes) : Prop where
  length_eq : bytes.length = f.headersEnd + f.rowBytes b.width * b.height
  fileSize_eq : fileSize bytes = bytes.length
  /-- The declared size of the pixel array. -/
  imageSize_eq : (u32At bytes 34).toNat = f.rowBytes b.width * b.height
  pixelOffset_eq : pixelOffset bytes = f.headersEnd
  pixel_eq : ∀ x < b.width, ∀ y < b.height, ∃ c, b.pixel? x y = some c ∧
    slice bytes (f.headersEnd + (b.height - 1 - y) * f.rowBytes b.width + f.pixelBytes * x)
      f.pixelBytes = f.channels c
  padding_lt : f.pixelBytes * b.width ≤ f.rowBytes b.width ∧
    f.rowBytes b.width - f.pixelBytes * b.width < 4
  padding_eq : ∀ r < b.height,
    slice bytes (f.headersEnd + r * f.rowBytes b.width + f.pixelBytes * b.width)
        (f.rowBytes b.width - f.pixelBytes * b.width) =
      List.replicate (f.rowBytes b.width - f.pixelBytes * b.width) 0

/-! ## What the writer computes -/

namespace PixelFormat

variable {f : PixelFormat}

lemma pixelBytes_eq (f : PixelFormat) : f.pixelBytes = f.depth.bits / 8 := by
  cases f <;> rfl

lemma headersEnd_eq (f : PixelFormat) : f.headersEnd = f.pixelOffset := by
  cases f <;> rfl

lemma rowBytes_eq (f : PixelFormat) (width : Nat) : f.rowBytes width = f.depth.stride width := by
  rw [rowBytes, Nat.ceilDiv_eq_add_pred_div, Depth.stride]
  cases f with
  | bgr24 =>
    show 4 * ((width * 3 + 4 - 1) / 4) = (width * 24 + 31) / 32 * 4
    omega
  | bgra32 =>
    show 4 * ((width * 4 + 4 - 1) / 4) = (width * 32 + 31) / 32 * 4
    omega

lemma imageSize_eq (f : PixelFormat) (width height : Nat) :
    f.imageSize width height = f.rowBytes width * height := by
  rw [imageSize, rowBytes_eq]

/-- A row is padded by less than four bytes. -/
lemma padding_lt (f : PixelFormat) (width : Nat) :
    f.pixelBytes * width ≤ f.rowBytes width ∧ f.rowBytes width - f.pixelBytes * width < 4 := by
  rw [rowBytes, Nat.ceilDiv_eq_add_pred_div, Nat.mul_comm width]
  omega

/-- The padding of a written row. -/
lemma slice_storeRow_padding (row : List Color) :
    slice (f.storeRow row) (f.pixelBytes * row.length)
        (f.rowBytes row.length - f.pixelBytes * row.length) =
      List.replicate (f.rowBytes row.length - f.pixelBytes * row.length) 0 := by
  have hlength : (row.flatMap f.store).length = f.pixelBytes * row.length := by
    rw [length_flatMap_store, pixelBytes_eq, Nat.mul_comm]
  rw [slice, storeRow, hlength, List.drop_left' hlength, ← rowBytes_eq]
  exact List.take_of_length_le (by rw [List.length_replicate])

end PixelFormat

namespace Bitmap

variable {b : Bitmap} {f : PixelFormat} {bytes : Bytes}

lemma encode_eq_ok_iff : b.encode f = .ok bytes ↔ f.Fits b.width b.height ∧ bytes = b.file f := by
  rw [encode]
  split
  · next hfits =>
    constructor
    · intro h
      exact ⟨hfits, (Except.ok.inj h).symm⟩
    · rintro ⟨-, rfl⟩
      rfl
  · next hfits =>
    constructor
    · intro h
      cases h
    · rintro ⟨hfits', -⟩
      exact absurd hfits' hfits

/-- A stored row is the written form of a row of the bitmap, counted from the bottom. -/
lemma slice_file_row {r : Nat} {row : List Color} (hrow : b.rows.reverse[r]? = some row) :
    slice (b.file f) (f.headersEnd + r * f.rowBytes b.width) (f.rowBytes b.width) =
      f.storeRow row := by
  rw [slice, ← List.drop_drop, f.headersEnd_eq, drop_file, f.rowBytes_eq]
  exact take_drop_blocks (fun _ hmem => length_of_mem_storedRows hmem) hrow

/-- A bitmap has a color in each of its places. -/
lemma exists_pixel (b : Bitmap) {x y : Nat} (hx : x < b.width) (hy : y < b.height) :
    ∃ row c, b.rows[y]? = some row ∧ row[x]? = some c ∧ b.pixel? x y = some c := by
  obtain ⟨row, hrow⟩ : ∃ row, b.rows[y]? = some row :=
    ⟨_, List.getElem?_eq_getElem (b.length_rows.symm ▸ hy)⟩
  obtain ⟨c, hc⟩ : ∃ c, row[x]? = some c :=
    ⟨_, List.getElem?_eq_getElem ((length_of_mem_rows (List.mem_of_getElem? hrow)).symm ▸ hx)⟩
  refine ⟨row, c, hrow, hc, ?_⟩
  exact pixel?_of_pixels_eq (flatMap_colors b).symm hx hy ((getElem?_colors hrow hx).trans hc)

/-- The padding of a stored row is zero. -/
lemma slice_file_padding {r : Nat} (hr : r < b.height) :
    slice (b.file f) (f.headersEnd + r * f.rowBytes b.width + f.pixelBytes * b.width)
        (f.rowBytes b.width - f.pixelBytes * b.width) =
      List.replicate (f.rowBytes b.width - f.pixelBytes * b.width) 0 := by
  obtain ⟨row, hrow⟩ : ∃ row, b.rows.reverse[r]? = some row :=
    ⟨_, List.getElem?_eq_getElem (by rwa [List.length_reverse, length_rows])⟩
  have hwidth : row.length = b.width :=
    length_of_mem_rows (List.mem_reverse.1 (List.mem_of_getElem? hrow))
  have hpadding := f.slice_storeRow_padding row
  rw [hwidth] at hpadding
  have hend : f.pixelBytes * b.width + (f.rowBytes b.width - f.pixelBytes * b.width) ≤
      f.rowBytes b.width := by
    rw [Nat.add_sub_cancel' (f.padding_lt b.width).1]
  rw [← slice_slice hend, slice_file_row hrow, hpadding]

/-- The file of a bitmap is laid out as the format says. -/
lemma written_file (h : f.Fits b.width b.height) : Written b f (b.file f) := by
  obtain ⟨-, hfileSize, hoffset⟩ := fileHeader_file h
  obtain ⟨-, -, hheight, -, hdepth, -⟩ := infoHeader_file h
  have hsize : f.fileSize b.width b.height = f.headersEnd + f.rowBytes b.width * b.height := by
    rw [PixelFormat.fileSize, f.imageSize_eq, f.headersEnd_eq]
  refine {
    length_eq := length_file.trans hsize
    fileSize_eq := hfileSize.trans length_file.symm
    imageSize_eq := ?_
    pixelOffset_eq := hoffset.trans f.headersEnd_eq.symm
    pixel_eq := fun x hx y hy => ?_
    padding_lt := f.padding_lt b.width
    padding_eq := fun r hr => slice_file_padding hr }
  · have hheader : InfoHeader.ofBytes (slice (b.file f) 14 40) = f.infoHeader b.width b.height := by
      rw [slice_file_infoHeader, InfoHeader.ofBytes_toBytes]
    rw [infoHeader_slice _ le_rfl, f.infoHeader_eq] at hheader
    refine (congrArg (fun h => h.imageSize.toNat) hheader).trans ?_
    rw [← f.imageSize_eq]
    exact UInt32.toNat_ofNat_of_lt' (lt_of_le_of_lt (Nat.le_add_left _ _) h.2.2)
  · obtain ⟨row, c, hrow, hc, hpixel⟩ := b.exists_pixel hx hy
    refine ⟨c, hpixel, ?_⟩
    have hup : ¬ Format.height (b.file f) < 0 := by
      rw [hheight, not_lt]
      exact Int.natCast_nonneg _
    have hslice := slice_file_pixel h hrow hc
    rw [rowStart, if_neg hup, hoffset, rows_file h, stride_file h, hdepth, ← f.headersEnd_eq,
      ← f.rowBytes_eq, ← f.pixelBytes_eq, Nat.mul_comm x] at hslice
    rw [hslice]
    cases f <;> rfl

/-! ## The warnings of the reader -/

/-- The headers of a written file declare its real sizes and leave the reserved fields empty, so
there is nothing to warn of. -/
lemma level_of_mem_log_file (h : f.Fits b.width b.height) {n : Notice}
    (hn : n ∈ (Image.read (b.file f)).log) : n.level ≠ .warn := by
  have hread := Image.read_eq_ok_iff.2 ⟨accepts_file h, rfl⟩
  have hfileHeader : (image (b.file f)).fileHeader = f.fileHeader b.width b.height := by
    show FileHeader.ofBytes (slice (b.file f) 0 14) = _
    rw [slice_file_fileHeader, FileHeader.ofBytes_toBytes]
  have hinfoHeader : (image (b.file f)).infoHeader = f.infoHeader b.width b.height := by
    show InfoHeader.ofBytes (slice (b.file f) 14 40) = _
    rw [slice_file_infoHeader, InfoHeader.ofBytes_toBytes]
  rw [Image.log_read hread, List.mem_append] at hn
  rcases hn with hn | hn
  · -- the file header
    have hsize : (f.fileHeader b.width b.height).fileSize.toNat = (b.file f).length := by
      rw [length_file]
      exact UInt32.toNat_ofNat_of_lt' h.2.2
    rw [hfileHeader, FileHeader.notices, hsize, if_neg (fun hlt => lt_irrefl _ hlt.2),
      if_neg (by rintro (hne | hne) <;> exact hne rfl)] at hn
    cases hn
  · -- the size of the pixel array, and the summary
    have hsize : (f.infoHeader b.width b.height).imageSize.toNat =
        (image (b.file f)).stride * (image (b.file f)).height := by
      rw [stride_image (accepts_file h), height_image, stride_file h, rows_file h]
      exact UInt32.toNat_ofNat_of_lt' (lt_of_le_of_lt (Nat.le_add_left _ _) h.2.2)
    rw [Image.notices, hinfoHeader, hsize, if_neg (fun hne => hne.2 rfl), List.nil_append,
      List.mem_singleton] at hn
    subst hn
    exact fun hlevel => nomatch hlevel

/-- **The bytes of a written file.**  What the writer gives for a bitmap is laid out as the format
says, and the reader takes it as an image of the same dimensions, bottom row first and with rows of
the same length, without a warning. -/
theorem encode_written (h : b.encode f = .ok bytes) :
    Written b f bytes ∧
      (∃ i, (Image.read bytes).value = .ok i ∧ i.width = b.width ∧ i.height = b.height ∧
        i.topDown = false ∧ i.stride = f.rowBytes b.width) ∧
      ∀ n ∈ (Image.read bytes).log, n.level ≠ .warn := by
  obtain ⟨hfits, rfl⟩ := encode_eq_ok_iff.1 h
  have haccepts := accepts_file hfits
  refine ⟨written_file hfits, ⟨image (b.file f), Image.read_eq_ok_iff.2 ⟨haccepts, rfl⟩, ?_⟩,
    fun n hn => level_of_mem_log_file hfits hn⟩
  obtain ⟨-, -, hheight, -⟩ := infoHeader_file hfits
  refine ⟨?_, ?_, ?_, ?_⟩
  · rw [width_image, columns_file hfits]
  · rw [height_image, rows_file hfits]
  · rw [Bool.eq_false_iff, Ne, topDown_image, hheight, not_lt]
    exact Int.natCast_nonneg _
  · rw [stride_image haccepts, stride_file hfits, f.rowBytes_eq]

/-- The sample has rows of fifteen bytes, which a byte of padding follows. -/
theorem encode_written_sample :
    sample.encode .bgr24 = .ok (sample.file .bgr24) ∧ Written sample .bgr24 (sample.file .bgr24) ∧
      (sample.file .bgr24).length = 70 ∧
      ∀ n ∈ (Image.read (sample.file .bgr24)).log, n.level ≠ .warn := by
  have hencode : sample.encode .bgr24 = .ok (sample.file .bgr24) := encode_of_fits (by decide)
  obtain ⟨hwritten, -, hlog⟩ := encode_written hencode
  exact ⟨hencode, hwritten, hwritten.length_eq, hlog⟩

end Bitmap

end Raster
