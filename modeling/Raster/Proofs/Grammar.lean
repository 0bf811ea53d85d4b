import Raster.Proofs.Reading
import Raster.Proofs.Records
import Mathlib

/-!
# The grammar of bitmap files

The checks of the reader hold of exactly the bytes that the format accepts
(`Format.accepts_iff`), and the image at the offsets of the format has the headers, the masks, the
color table and the pixel array of the file (`Format.describes_image`).  Together they say what the
reader accepts and what it gives: `Image.read_accepts_exactly`.
-/

namespace Raster

open LittleEndian Bmp Bmp.Format

namespace Bmp.Format

variable {data : Bytes}

/-! ## What the checks amount to -/

lemma Channel.mem_all (c : Channel) : c ∈ Channel.all := by
  cases c <;> decide

lemma maskChecks_iff :
    (∀ k ∈ Channel.all.flatMap (maskChecks data), k.condition) ↔
      ∀ c, IsRunBelow (depth data) ((masks data).get c).toNat := by
  constructor
  · intro h c
    rw [Mask.isRunBelow_iff]
    have hmem {k : Check} (hk : k ∈ maskChecks data c) : k.condition :=
      h k (List.mem_flatMap.2 ⟨c, Channel.mem_all c, hk⟩)
    exact ⟨hmem List.mem_cons_self, hmem (List.mem_cons_of_mem _ List.mem_cons_self)⟩
  · intro h k hk
    obtain ⟨c, -, hk⟩ := List.mem_flatMap.1 hk
    have hc := Mask.isRunBelow_iff.1 (h c)
    simp only [maskChecks, List.mem_cons, List.not_mem_nil, or_false] at hk
    rcases hk with rfl | rfl
    · exact hc.1
    · exact hc.2

/-- The checks of the source of the colors are those of the masks, or of the color table. -/
lemma sourceChecks_iff (hdepth : scheme data ≠ 0 → ¬ depth data ≤ 8) :
    (∀ k ∈ sourceChecks data, k.condition) ↔
      (scheme data ≠ 0 → masksEnd data ≤ data.length ∧
        ∀ c, IsRunBelow (depth data) ((masks data).get c).toNat) ∧
      (depth data ≤ 8 → colorsUsed data ≤ 2 ^ depth data ∧
        14 + headerSize data + 4 * tableSize data ≤ data.length) := by
  rw [sourceChecks]
  by_cases hs : scheme data = 0
  · rw [if_neg (not_not.2 hs)]
    by_cases h8 : depth data ≤ 8
    · simp [h8, hs]
    · simp [h8, hs]
  · rw [if_pos hs, List.forall_mem_cons, maskChecks_iff]
    simp [hs, hdepth hs]

/-- The checks hold of the bitmap files, and of no other bytes. -/
lemma accepts_iff : Accepts data ↔ ∀ c ∈ checks data, c.condition := by
  simp only [checks, List.forall_mem_append]
  constructor
  · intro h
    have hsize := le_of_mem_sizes h.headerSize_mem
    have hle := h.header_le
    -- masks are stored for pixels of 16 and 32 bits only, which have no color table
    have hdepth : scheme data ≠ 0 → ¬ depth data ≤ 8 := by
      intro hs
      have hscheme := h.scheme_eq
      omega
    refine ⟨?_, ?_, ?_, ?_, ?_⟩
    · simp only [fileHeaderChecks, List.forall_mem_cons, List.not_mem_nil, IsEmpty.forall_iff,
        implies_true, and_true]
      exact ⟨fun _ => h.signature, by omega, h.fileSize_le⟩
    · simp only [infoHeaderChecks, List.forall_mem_cons, List.not_mem_nil, IsEmpty.forall_iff,
        implies_true, and_true]
      exact ⟨by omega, by omega, h.headerSize_mem, hle⟩
    · simp only [pictureChecks, List.forall_mem_cons, List.not_mem_nil, IsEmpty.forall_iff,
        implies_true, and_true]
      exact ⟨h.width_pos, h.height_ne, h.planes_eq, h.depth_mem⟩
    · rw [colorChecks, List.forall_mem_cons, sourceChecks_iff hdepth]
      exact ⟨h.scheme_eq, fun hs => ⟨h.masks_le hs, h.masks_run hs⟩,
        fun h8 => ⟨h.colors_le h8, h.table_le h8⟩⟩
    · simp only [pixelChecks, List.forall_mem_cons, List.not_mem_nil, IsEmpty.forall_iff,
        implies_true, and_true]
      exact ⟨h.headersEnd_le, h.pixels_le⟩
  · rintro ⟨hfile, hinfo, hpicture, hcolor, hpixel⟩
    simp only [fileHeaderChecks, List.forall_mem_cons, List.not_mem_nil, IsEmpty.forall_iff,
        implies_true, and_true] at hfile
    simp only [infoHeaderChecks, List.forall_mem_cons, List.not_mem_nil, IsEmpty.forall_iff,
        implies_true, and_true] at hinfo
    simp only [pictureChecks, List.forall_mem_cons, List.not_mem_nil, IsEmpty.forall_iff,
        implies_true, and_true] at hpicture
    simp only [pixelChecks, List.forall_mem_cons, List.not_mem_nil, IsEmpty.forall_iff,
        implies_true, and_true] at hpixel
    rw [colorChecks, List.forall_mem_cons] at hcolor
    obtain ⟨hscheme, hsource⟩ := hcolor
    have hdepth : scheme data ≠ 0 → ¬ depth data ≤ 8 := by
      intro hs
      dsimp only at hscheme
      omega
    rw [sourceChecks_iff hdepth] at hsource
    exact {
      signature := hfile.1 (by omega)
      fileSize_le := hfile.2.2
      headerSize_mem := hinfo.2.2.1
      header_le := hinfo.2.2.2
      width_pos := hpicture.1
      height_ne := hpicture.2.1
      planes_eq := hpicture.2.2.1
      depth_mem := hpicture.2.2.2
      scheme_eq := hscheme
      masks_le := fun hs => (hsource.1 hs).1
      masks_run := fun hs => (hsource.1 hs).2
      colors_le := fun h8 => (hsource.2 h8).1
      table_le := fun h8 => (hsource.2 h8).2
      headersEnd_le := hpixel.1
      pixels_le := hpixel.2 }

/-! ## The image of a bitmap file -/

lemma standard_of_ne {n : Nat} (h16 : n ≠ 16) (h32 : n ≠ 32) :
    ChannelMasks.standard n = .empty := by
  unfold ChannelMasks.standard
  split <;> first | contradiction | rfl

lemma source_image : (image data).source = source data := rfl

lemma masks_image (h : Accepts data) : (image data).masks = masks data := by
  have hdepth := h.depth_mem
  have hscheme := h.scheme_eq
  simp only [List.mem_cons, List.not_mem_nil, or_false] at hdepth
  rw [Image.masks, source_image]
  by_cases h8 : depth data ≤ 8
  · rw [source, if_pos h8, masks, if_pos (by omega), standard_of_ne (by omega) (by omega)]
  · by_cases h24 : depth data = 24
    · rw [source, if_neg h8, if_pos h24, masks, if_pos (by omega),
        standard_of_ne (by omega) (by omega)]
    · rw [source, if_neg h8, if_neg h24]

lemma colorTable_of_le (h8 : depth data ≤ 8) : (image data).colorTable = table data := by
  rw [Image.colorTable, source_image, source, if_pos h8]

lemma colorTable_of_lt (h8 : 8 < depth data) : (image data).colorTable = [] := by
  rw [Image.colorTable, source_image, source, if_neg (Nat.not_le.2 h8)]
  by_cases h24 : depth data = 24
  · rw [if_pos h24]
  · rw [if_neg h24]

lemma colorTable_image (h : Accepts data) :
    (image data).colorTable.toBytes = slice data (14 + headerSize data) (tableBytes data) := by
  rw [tableBytes]
  by_cases h8 : depth data ≤ 8
  · have hlength := length_slice (h.table_le h8)
    rw [if_pos h8, colorTable_of_le h8]
    exact colorTable_toBytes_map (hlength.trans (Nat.mul_comm 4 _))
  · rw [if_neg h8, colorTable_of_lt (Nat.lt_of_not_le h8)]
    rfl

/-- The image at the offsets of the format has what the file describes. -/
lemma describes_image (h : Accepts data) : Describes data (image data) where
  fileHeader := by
    have hsize := le_of_mem_sizes h.headerSize_mem
    have hle := h.header_le
    exact fileHeader_toBytes_ofBytes (length_slice (by omega))
  infoHeader := by
    have hsize := le_of_mem_sizes h.headerSize_mem
    have hle := h.header_le
    exact infoHeader_toBytes_ofBytes (length_slice (by omega))
  depth_eq := bits_pixelDepth h.depth_mem
  masks_eq := masks_image h
  colorTable := colorTable_image h
  pixelData := rfl
  stride_eq := by
    show (pixelDepth data).stride (InfoHeader.ofBytes (slice data 14 40)).columns = _
    rw [infoHeader_columns, depth_stride h.depth_mem]

end Bmp.Format

namespace Bmp.Image

variable {data : Bytes} {i : Image}

/-- The reader gives the image of a bitmap file, and nothing for other bytes. -/
lemma read_eq_ok_iff : (read data).value = .ok i ↔ Accepts data ∧ i = image data := by
  rw [value_read, map_eq_ok_iff, accepts_iff]
  constructor
  · rintro ⟨u, hverdict, rfl⟩
    exact ⟨verdict_eq_ok_iff.1 hverdict, rfl⟩
  · rintro ⟨hchecks, rfl⟩
    exact ⟨(), verdict_eq_ok_iff.2 hchecks, rfl⟩

/-- The notices about a file that is read: first those about its file header, then those about the
image. -/
lemma log_read (h : (read data).value = .ok i) :
    (read data).log = i.fileHeader.notices data.length ++ i.notices := by
  obtain ⟨-, rfl⟩ := read_eq_ok_iff.1 h
  rw [read] at h ⊢
  cases hheader : FileHeader.read data with
  | error e =>
    rw [hheader] at h
    cases h
  | ok header =>
    rw [hheader] at h
    dsimp only at h ⊢
    cases hrest : ofFileHeader data header with
    | error e =>
      rw [hrest] at h
      cases h
    | ok i =>
      rw [hrest] at h
      obtain rfl : i = image data := Except.ok.inj h
      rw [fileHeader_read] at hheader
      obtain ⟨-, -, rfl⟩ := map_eq_ok_iff.1 hheader
      rfl

/-- **The grammar of bitmap files.**  The reader accepts exactly the bytes that the format accepts,
and the image has the headers, masks, color table and pixel array that they describe. -/
theorem read_accepts_exactly (data : Bytes) :
    ((∃ i, (read data).value = .ok i) ↔ Accepts data) ∧
      ∀ i, (read data).value = .ok i → Describes data i := by
  refine ⟨⟨?_, fun h => ⟨image data, read_eq_ok_iff.2 ⟨h, rfl⟩⟩⟩, ?_⟩
  · rintro ⟨i, hi⟩
    exact (read_eq_ok_iff.1 hi).1
  · intro i hi
    obtain ⟨haccepts, rfl⟩ := read_eq_ok_iff.1 hi
    exact describes_image haccepts

/-- A file with three columns and two rows, four bits a pixel and a table of three colors. -/
def sample : Bytes :=
  [0x42, 0x4d, 74, 0, 0, 0, 0, 0, 0, 0, 66, 0, 0, 0,
   40, 0, 0, 0, 3, 0, 0, 0, 2, 0, 0, 0, 1, 0, 4, 0, 0, 0, 0, 0, 0, 0, 0, 0, 0, 0, 0, 0, 0, 0, 0, 0,
   3, 0, 0, 0, 0, 0, 0, 0,
   255, 0, 0, 0, 0, 255, 0, 0, 0, 0, 255, 0,
   0x01, 0x20, 0, 0, 0x21, 0x0f, 0, 0]

theorem read_accepts_sample : Accepts sample ∧ Describes sample (image sample) :=
  ⟨(read_accepts_exactly sample).1.1 ⟨image sample, rfl⟩, (read_accepts_exactly sample).2 _ rfl⟩

end Bmp.Image

end Raster
