import Raster.Proofs.Written
import Mathlib

/-!
# Saving what was read

A picture within the usual limits is small enough for the header fields of both formats, so whatever
has been read can be saved (`Bitmap.decode_resaved`).  Two facts tell what is lost on the way.

* The file of a bitmap gives the bitmap back or, from the format without an alpha channel, the
  bitmap with all colors opaque (`Bitmap.readBack`, `Bitmap.value_decode_file`).  Written again,
  that has the same bytes (`Bitmap.encode_readBack`): the alpha bytes that differ are the ones the
  format drops.
* A file without a mask for the alpha channel shows opaque colors only, in each of the three ways in
  which a pixel gets its color (`Format.alpha_of_color`).  Then nothing is dropped.
-/

namespace Raster

open Bmp Bmp.Format

/-! ## Reading a written file -/

namespace PixelFormat

variable {f : PixelFormat}

/-- The bytes of a pixel do not tell which alpha byte was dropped. -/
lemma store_kept (f : PixelFormat) (c : Color) : f.store (f.kept c) = f.store c := by
  cases f <;> rfl

lemma storeRow_kept (f : PixelFormat) (row : List Color) :
    f.storeRow (row.map f.kept) = f.storeRow row := by
  simp only [storeRow, List.flatMap_map, store_kept, List.length_map]

/-- A picture within the usual limits is small enough for the header fields. -/
lemma fits_of_le (f : PixelFormat) {width height : Nat} (hwidth : width ≤ 16384)
    (hheight : height ≤ 16384) : f.Fits width height := by
  have hstride : f.depth.stride width ≤ 65536 := by
    cases f with
    | bgr24 =>
      show (width * 24 + 31) / 32 * 4 ≤ 65536
      omega
    | bgra32 =>
      show (width * 32 + 31) / 32 * 4 ≤ 65536
      omega
  have himage : f.imageSize width height ≤ 65536 * 16384 := Nat.mul_le_mul hstride hheight
  have hoffset : f.pixelOffset ≤ 70 := by
    cases f <;> decide
  refine ⟨lt_of_le_of_lt hwidth (by decide), lt_of_le_of_lt hheight (by decide), ?_⟩
  calc f.fileSize width height = f.pixelOffset + f.imageSize width height := rfl
    _ ≤ 70 + 65536 * 16384 := Nat.add_le_add hoffset himage
    _ < 1 <<< 32 := by decide

end PixelFormat

namespace Bitmap

variable {b : Bitmap} {f : PixelFormat}

/-- The bitmap that its file gives back: one of the formats drops the alpha channel, which makes all
colors opaque. -/
def readBack (b : Bitmap) (f : PixelFormat) : Bitmap :=
  match f with
  | .bgr24 => b.withAlpha 0xff
  | .bgra32 => b

lemma width_readBack (b : Bitmap) (f : PixelFormat) : (b.readBack f).width = b.width := by
  cases f <;> rfl

lemma height_readBack (b : Bitmap) (f : PixelFormat) : (b.readBack f).height = b.height := by
  cases f <;> rfl

lemma pixels_readBack (b : Bitmap) (f : PixelFormat) :
    (b.readBack f).pixels = (b.colors.map f.kept).flatMap Color.toBytes := by
  cases f with
  | bgr24 => exact pixels_withAlpha 0xff b
  | bgra32 =>
    have hkept : b.colors.map PixelFormat.bgra32.kept = b.colors := List.map_id _
    rw [hkept, flatMap_colors]
    rfl

/-- What a file gives back shows what the format keeps of each color. -/
lemma pixel?_readBack {x y : Nat} {c : Color} (hx : x < b.width) (hy : y < b.height)
    (hc : b.pixel? x y = some c) : (b.readBack f).pixel? x y = some (f.kept c) := by
  obtain ⟨row, c', hrow, hc', hpixel⟩ := b.exists_pixel hx hy
  obtain rfl : c' = c := Option.some.inj (hpixel.symm.trans hc)
  have hcolor : b.colors[y * b.width + x]? = some c' := (getElem?_colors hrow hx).trans hc'
  refine pixel?_of_pixels_eq (b.pixels_readBack f) ?_ ?_ ?_
  · rwa [width_readBack]
  · rwa [height_readBack]
  · rw [width_readBack, List.getElem?_map, hcolor, Option.map_some]

/-- A written file is refused for its dimensions alone; otherwise it gives back what the format
keeps. -/
lemma value_decode_file (h : f.Fits b.width b.height) (l : Limits) :
    (decode l (b.file f)).value =
      l.checkDimensions b.width b.height >>= fun _ => .ok (b.readBack f) := by
  have hread := Image.read_eq_ok_iff.2 ⟨accepts_file h, rfl⟩
  have hbitmap := bitmap_image_file h (b.width_readBack f) (b.height_readBack f)
    (b.pixels_readBack f)
  rw [value_decode, hread, ok_bind, width_image, height_image, columns_file h, rows_file h,
    hbitmap]

/-- Within limits that admit the bitmap, its file is read. -/
lemma decode_file_of_le (h : f.Fits b.width b.height) {l : Limits} (hwidth : b.width ≤ l.maxWidth)
    (hheight : b.height ≤ l.maxHeight) : (decode l (b.file f)).value = .ok (b.readBack f) := by
  rw [value_decode_file h, Limits.checkDimensions, require_bind ⟨hwidth, hheight⟩]

/-! ## Writing again -/

/-- Colors are told apart by their bytes. -/
lemma flatMap_toBytes_injective : Function.Injective (List.flatMap Color.toBytes) := by
  intro cs ds h
  induction cs generalizing ds with
  | nil =>
    cases ds with
    | nil => rfl
    | cons d ds => cases h
  | cons c cs ih =>
    cases ds with
    | nil => cases h
    | cons d ds =>
      -- every color takes four bytes, so both lists of bytes are cut at the same place
      obtain ⟨hfirst, hrest⟩ := List.append_inj h rfl
      have hcolor : Color.ofBytes? c.toBytes = Color.ofBytes? d.toBytes := congrArg _ hfirst
      rw [Color.ofBytes?_toBytes, Color.ofBytes?_toBytes] at hcolor
      rw [Option.some.inj hcolor, ih hrest]

lemma colors_readBack (b : Bitmap) (f : PixelFormat) :
    (b.readBack f).colors = b.colors.map f.kept := by
  apply flatMap_toBytes_injective
  rw [flatMap_colors, pixels_readBack]

lemma map_length_rows (b : Bitmap) : b.rows.map List.length = List.replicate b.height b.width := by
  rw [List.eq_replicate_iff]
  constructor
  · rw [List.length_map, length_rows]
  · intro n hn
    obtain ⟨row, hrow, rfl⟩ := List.mem_map.1 hn
    exact length_of_mem_rows hrow

/-- The rows are cut at the same places. -/
lemma rows_readBack (b : Bitmap) (f : PixelFormat) :
    (b.readBack f).rows = b.rows.map (List.map f.kept) := by
  -- the rows have the same colors one after the other, and the same lengths
  rw [List.eq_iff_flatten_eq]
  constructor
  · rw [← List.map_flatten]
    exact b.colors_readBack f
  · rw [map_length_rows, width_readBack, height_readBack, ← map_length_rows, List.map_map]
    refine List.map_congr_left fun row _ => ?_
    exact (List.length_map _).symm

/-- What was read back is written as before. -/
lemma encode_readBack (b : Bitmap) (f : PixelFormat) : (b.readBack f).encode f = b.encode f := by
  rw [encode, encode, width_readBack, height_readBack, rows_readBack, ← List.map_reverse,
    List.flatMap_map]
  simp only [PixelFormat.storeRow_kept]

/-! ## Opaque bitmaps -/

/-- A bitmap of opaque colors has nothing to lose. -/
lemma withAlpha_of_forall_alpha {colors : List Color} (hb : b.pixels = colors.flatMap Color.toBytes)
    (halpha : ∀ c ∈ colors, c.alpha = 0xff) : b.withAlpha 0xff = b := by
  have hsame : colors.map (fun c => { c with alpha := 0xff }) = colors := by
    refine (List.map_congr_left fun c hc => ?_).trans (List.map_id _)
    rw [← halpha c hc]
    rfl
  have hpixels : (b.withAlpha 0xff).pixels = b.pixels := by
    calc (b.withAlpha 0xff).pixels
        = (colors.flatMap Color.toBytes).mapIdx _ := by rw [← hb]; rfl
      _ = (colors.map fun c => { c with alpha := 0xff }).flatMap Color.toBytes :=
        mapIdx_toBytes 0xff colors
      _ = b.pixels := by rw [hsame, hb]
  cases b
  exact (mk.injEq ..).mpr ⟨rfl, rfl, hpixels⟩

/-- Every fourth byte of such a bitmap is an alpha byte with the largest value. -/
lemma alpha_of_withAlpha (h : b.withAlpha 0xff = b) {k : Nat} {byte : UInt8}
    (hbyte : b.pixels[k]? = some byte) (hk : k % 4 = 3) : byte = 0xff := by
  rw [← h] at hbyte
  simp only [withAlpha, List.getElem?_mapIdx, hk, if_true, Option.map_eq_some_iff] at hbyte
  obtain ⟨-, -, hbyte⟩ := hbyte
  exact hbyte.symm

end Bitmap

namespace Bmp.Format

variable {data : Bytes}

/-- There is no mask for the alpha channel: the depth has no masks, or the scheme implies those of
the other channels only, or the mask is empty. -/
def LacksAlpha (data : Bytes) : Prop :=
  depth data ∈ [1, 4, 8, 24] ∨ scheme data = 0 ∨ (masks data).alpha = 0

lemma alpha_standard (n : Nat) : (ChannelMasks.standard n).alpha = 0 := by
  unfold ChannelMasks.standard
  split <;> rfl

lemma LacksAlpha.masks_eq (h : LacksAlpha data) (haccepts : Accepts data) :
    (masks data).alpha = 0 := by
  have hrgb (hs : scheme data = 0) : (masks data).alpha = 0 := by
    rw [masks, if_pos hs]
    exact alpha_standard _
  rcases h with hdepth | hs | hmask
  · -- masks are stored for pixels of 16 and 32 bits only
    have hscheme := haccepts.scheme_eq
    simp only [List.mem_cons, List.not_mem_nil, or_false] at hdepth
    exact hrgb (by omega)
  · exact hrgb hs
  · exact hmask

/-- A color comes from the table, from three bytes or through the masks, and is opaque unless there
is a mask for its alpha channel. -/
lemma alpha_of_color (h : (masks data).alpha = 0) {n : Nat} {c : Color}
    (hc : (source data).color n = .ok c) : c.alpha = 0xff := by
  rw [source] at hc
  split at hc
  · rw [ColorSource.color, color_table] at hc
    split at hc
    · obtain rfl := Except.ok.inj hc
      rfl
    · cases hc
  · split at hc
    · obtain rfl := Except.ok.inj hc
      rfl
    · obtain rfl := Except.ok.inj hc
      rw [ChannelMasks.color, h]
      rfl

end Bmp.Format

namespace Bitmap

variable {data : Bytes} {b : Bitmap}

/-- What is known of a bitmap that was read: the file and its image, and that the limits admit
it. -/
lemma decode_eq_ok_iff {l : Limits} :
    (decode l data).value = .ok b ↔ Accepts data ∧ (image data).bitmap = .ok b ∧
      b.width ≤ l.maxWidth ∧ b.height ≤ l.maxHeight := by
  rw [value_decode, bind_eq_ok_iff]
  constructor
  · rintro ⟨i, hread, h⟩
    obtain ⟨haccepts, rfl⟩ := Image.read_eq_ok_iff.1 hread
    obtain ⟨u, hlimits, hbitmap⟩ := bind_eq_ok_iff.1 h
    obtain ⟨-, -, hwidth, hheight, -⟩ := Image.bitmap_eq_ok_iff.1 hbitmap
    rw [hwidth, hheight]
    exact ⟨haccepts, hbitmap, require_eq_ok_iff.1 hlimits⟩
  · rintro ⟨haccepts, hbitmap, hlimits⟩
    obtain ⟨-, -, hwidth, hheight, -⟩ := Image.bitmap_eq_ok_iff.1 hbitmap
    rw [hwidth, hheight] at hlimits
    refine ⟨image data, Image.read_eq_ok_iff.2 ⟨haccepts, rfl⟩, ?_⟩
    rw [Limits.checkDimensions, require_bind hlimits, hbitmap]

/-- A bitmap that was read from a file without an alpha channel is opaque. -/
lemma withAlpha_of_decode (hdecode : (decode {} data).value = .ok b) (h : LacksAlpha data) :
    b.withAlpha 0xff = b := by
  obtain ⟨haccepts, hbitmap, -⟩ := decode_eq_ok_iff.1 hdecode
  obtain ⟨colors, hcolors, -, -, hpixels⟩ := Image.bitmap_eq_ok_iff.1 hbitmap
  refine withAlpha_of_forall_alpha hpixels fun c hc => ?_
  obtain ⟨k, hk, rfl⟩ := List.getElem_of_mem hc
  have hcell : k < (image data).cells.length := hcolors.length_eq ▸ hk
  exact alpha_of_color (h.masks_eq haccepts) (hcolors.get hcell hk)

/-- **What has been read can be saved.**  A bitmap that was read within the usual limits can be
written in both formats.  The format with an alpha channel gives it back; the other one does too if
the file it came from has no alpha channel, in which case all its alpha bytes have the largest
value.  What a written file gives back is written, in the same format, as the same bytes. -/
theorem decode_resaved (h : (decode {} data).value = .ok b) :
    (∃ bytes, b.encode .bgra32 = .ok bytes ∧ (decode {} bytes).value = .ok b) ∧
      (LacksAlpha data →
        (∀ (k : Nat) (byte : UInt8), b.pixels[k]? = some byte → k % 4 = 3 → byte = 0xff) ∧
        ∃ bytes, b.encode .bgr24 = .ok bytes ∧ (decode {} bytes).value = .ok b) ∧
      ∀ f, ∃ bytes b', b.encode f = .ok bytes ∧ (decode {} bytes).value = .ok b' ∧
        b'.encode f = .ok bytes := by
  obtain ⟨-, -, hwidth, hheight⟩ := decode_eq_ok_iff.1 h
  have hfits (f : PixelFormat) : f.Fits b.width b.height := f.fits_of_le hwidth hheight
  have hback (f : PixelFormat) : (decode {} (b.file f)).value = .ok (b.readBack f) :=
    decode_file_of_le (hfits f) hwidth hheight
  refine ⟨⟨b.file .bgra32, encode_of_fits (hfits _), hback .bgra32⟩, fun hlacks => ?_, fun f => ?_⟩
  · have hsame := withAlpha_of_decode h hlacks
    refine ⟨fun k byte hbyte hk => alpha_of_withAlpha hsame hbyte hk, b.file .bgr24,
      encode_of_fits (hfits _), ?_⟩
    rw [hback .bgr24]
    exact congrArg Except.ok hsame
  · refine ⟨b.file f, b.readBack f, encode_of_fits (hfits f), hback f, ?_⟩
    rw [encode_readBack, encode_of_fits (hfits f)]

/-- The sample file has a color table, so it has no alpha channel and both formats keep its
picture. -/
theorem decode_resaved_sample :
    (decode {} Image.sample).value = .ok Image.samplePicture ∧ LacksAlpha Image.sample ∧
      ∃ bytes, Image.samplePicture.encode .bgr24 = .ok bytes ∧
        (decode {} bytes).value = .ok Image.samplePicture := by
  have hdecode : (decode {} Image.sample).value = .ok Image.samplePicture := rfl
  have hlacks : LacksAlpha Image.sample := Or.inl (by decide)
  obtain ⟨-, halpha, -⟩ := decode_resaved hdecode
  exact ⟨hdecode, hlacks, (halpha hlacks).2⟩

end Bitmap

end Raster
