import Raster.Proofs.MaskChecks
import Raster.Proofs.Overwriting
import Raster.Proofs.Prefixes
import Raster.Proofs.Rejections
import Mathlib

/-!
# The ways in which masks are given

The masks of the channels follow an info header of 40 bytes, or are a part of a longer one, or are
implied by the depth.  Which of these a file uses is settled by two fields, the size of the info
header and the compression scheme, and the masks stand at the same offsets wherever they are stored.
So a file can be told to give its masks in another way by setting these fields, and nothing else
about it changes (`Image.mask_routes_agree`):

* masks that follow the header are taken into it by a header that is longer by as many bytes;
* masks that are those of the depth may as well not be mentioned.

A file that is refused is refused in the same way, only that an error about the compression scheme
names the scheme that the file has (`Error.renamed`).
-/

namespace Raster

open LittleEndian Bmp Bmp.Format

/-! ## Errors that name the scheme -/

/-- The error about another compression scheme; errors about anything else stay. -/
def Error.renamed (s : Compression) : Error → Error
  | unsupportedCompression _ bits => .unsupportedCompression s bits
  | e => e

lemma Error.renamed_of_malformed {e : Error} (h : e.kind = .malformed) (s : Compression) :
    e.renamed s = e := by
  cases e <;> first | rfl | cases h

namespace Bmp

/-- The image with another size of its info header and another compression scheme. -/
def Image.relabelled (i : Image) (size : UInt32) (s : Compression) : Image :=
  { i with infoHeader := { i.infoHeader with headerSize := size, compression := s } }

/-- What an image holds beside its headers. -/
def Image.content (i : Image) : ChannelMasks × ColorTable × Bytes × Nat :=
  (i.masks, i.colorTable, i.pixelData, i.stride)

namespace Format

variable {data data' : Bytes} {s : Compression}

/-- The only check whose error names the compression scheme is that of the scheme. -/
lemma map_checks (data : Bytes) (s : Compression) :
    (checks data).map (Check.mapError (Error.renamed s)) =
      fileHeaderChecks data ++ (infoHeaderChecks data ++ (pictureChecks data ++
        ((⟨scheme data = 0 ∨
              (scheme data = 3 ∨ scheme data = 6) ∧ (depth data = 16 ∨ depth data = 32),
            .unsupportedCompression s (depth data)⟩ :: sourceChecks data) ++
          pixelChecks data))) := by
  have hsource :
      (sourceChecks data).map (Check.mapError (Error.renamed s)) = sourceChecks data := by
    rw [sourceChecks]
    split
    · rfl
    · split <;> rfl
  simp only [checks, colorChecks, List.map_append, List.map_cons, hsource]
  rfl

/-! ## Files with other labels -/

/-- The two files are the same apart from the size of the info header and the compression scheme. -/
structure Relabels (data data' : Bytes) : Prop where
  length_eq : data'.length = data.length
  slice_eq : ∀ p count, p + count ≤ 14 ∨ 18 ≤ p → p + count ≤ 30 ∨ 34 ≤ p →
    slice data' p count = slice data p count

namespace Relabels

lemma of_setSize {size : UInt32} (h : 18 ≤ data.length) : Relabels data (setWord data 14 size) where
  length_eq := length_setWord h
  slice_eq _ _ hsize _ := slice_setWord h hsize

lemma of_setScheme {code : UInt32} (h : 34 ≤ data.length) :
    Relabels data (setWord data 30 code) where
  length_eq := length_setWord h
  slice_eq _ _ _ hscheme := slice_setWord h hscheme

lemma trans {data'' : Bytes} (h : Relabels data data') (h' : Relabels data' data'') :
    Relabels data data'' where
  length_eq := h'.length_eq.trans h.length_eq
  slice_eq p count hsize hscheme :=
    (h'.slice_eq p count hsize hscheme).trans (h.slice_eq p count hsize hscheme)

variable (h : Relabels data data')

include h

lemma u16At_eq {p : Nat} (hsize : p + 2 ≤ 14 ∨ 18 ≤ p) (hscheme : p + 2 ≤ 30 ∨ 34 ≤ p) :
    u16At data' p = u16At data p :=
  u16At_congr (h.slice_eq p 2 hsize hscheme)

lemma u32At_eq {p : Nat} (hsize : p + 4 ≤ 14 ∨ 18 ≤ p) (hscheme : p + 4 ≤ 30 ∨ 34 ≤ p) :
    u32At data' p = u32At data p :=
  u32At_congr (h.slice_eq p 4 hsize hscheme)

lemma height_eq : height data' = height data :=
  congrArg (fun w => w.toInt32.toInt) (h.u32At_eq (by decide) (by decide))

lemma fileSize_eq : fileSize data' = fileSize data :=
  congrArg UInt32.toNat (h.u32At_eq (by decide) (by decide))

lemma signature_eq : data'.take 2 = data.take 2 := h.slice_eq 0 2 (by decide) (by decide)

lemma sameShape : SameShape data data' where
  pixelOffset_eq := congrArg UInt32.toNat (h.u32At_eq (by decide) (by decide))
  width_eq := congrArg (fun w => w.toInt32.toInt) (h.u32At_eq (by decide) (by decide))
  rows_eq := by rw [rows, rows, h.height_eq]
  planes_eq := congrArg UInt16.toNat (h.u16At_eq (by decide) (by decide))
  depth_eq := congrArg UInt16.toNat (h.u16At_eq (by decide) (by decide))
  colorsUsed_eq _ := congrArg UInt32.toNat (h.u32At_eq (by decide) (by decide))

lemma fileHeaderChecks_eq : fileHeaderChecks data' = fileHeaderChecks data := by
  rw [fileHeaderChecks, fileHeaderChecks, h.length_eq, h.signature_eq, h.fileSize_eq]

lemma pictureChecks_eq : pictureChecks data' = pictureChecks data := by
  have hf := h.sameShape
  rw [pictureChecks, pictureChecks, hf.width_eq, h.height_eq, hf.planes_eq, hf.depth_eq]

lemma pixelChecks_eq (hend : headersEnd data' = headersEnd data) :
    pixelChecks data' = pixelChecks data := by
  have hf := h.sameShape
  rw [pixelChecks, pixelChecks, hend, hf.pixelOffset_eq, hf.pixelBytes_eq, h.length_eq]

lemma infoHeader_eq : InfoHeader.ofBytes (slice data' 14 40) =
    { InfoHeader.ofBytes (slice data 14 40) with
      headerSize := u32At data' 14, compression := ⟨u32At data' 30⟩ } := by
  have hword {p : Nat} (hp : 18 ≤ p ∧ p + 4 ≤ 30 ∨ 34 ≤ p) : u32At data' p = u32At data p :=
    h.u32At_eq (by omega) (by omega)
  have hhalf {p : Nat} (hp : 18 ≤ p ∧ p + 2 ≤ 30) : u16At data' p = u16At data p :=
    h.u16At_eq (by omega) (by omega)
  rw [infoHeader_slice data le_rfl, infoHeader_slice data' le_rfl, hword (p := 18) (by decide),
    hword (p := 22) (by decide), hhalf (p := 26) (by decide), hhalf (p := 28) (by decide),
    hword (p := 34) (by decide), hword (p := 38) (by decide), hword (p := 42) (by decide),
    hword (p := 46) (by decide), hword (p := 50) (by decide)]

/-- If its colors come from the same source, the image is the same but for its labels. -/
lemma image_eq (haccepts : Accepts data) (hsource : source data' = source data) :
    image data' = (image data).relabelled (u32At data' 14) ⟨u32At data' 30⟩ := by
  have hf := h.sameShape
  have hfields := haccepts.fields_le
  have hoffset := haccepts.headersEnd_le
  have hfileHeader : slice data' 0 14 = slice data 0 14 := h.slice_eq 0 14 (by decide) (by decide)
  have hpixels : slice data' (pixelOffset data) (pixelBytes data) =
      slice data (pixelOffset data) (pixelBytes data) :=
    h.slice_eq _ _ (Or.inr (by omega)) (Or.inr (by omega))
  rw [image, image, Image.relabelled, hsource, hf.pixelDepth_eq, hfileHeader, h.infoHeader_eq,
    hf.pixelOffset_eq, hf.pixelBytes_eq, hpixels]

end Relabels

/-! ## Masks that are taken into the header -/

/-- The masks that follow the info header in the first file are a part of it in the second, whose
header is longer by as many bytes. -/
structure TakesIn (data data' : Bytes) : Prop extends Relabels data data' where
  headerSize_eq : headerSize data = 40
  scheme_mem : scheme data = 3 ∨ scheme data = 6
  scheme_mem' : scheme data' = 3 ∨ scheme data' = 6
  headerSize_mem' : headerSize data' ∈ [40, 52, 56, 108, 124]
  storesAlpha_iff : StoresAlpha data' ↔ StoresAlpha data
  longer : 14 + headerSize data' = masksEnd data
  masks_le : masksEnd data ≤ data.length

namespace TakesIn

variable (h : TakesIn data data')

include h

lemma masksEnd_eq : masksEnd data' = masksEnd data := if_congr h.storesAlpha_iff rfl rfl

/-- The headers end with the masks in both files. -/
lemma headersEnd_eq : headersEnd data' = headersEnd data := by
  have hs := h.scheme_mem
  have hs' := h.scheme_mem'
  have hsize := h.headerSize_eq
  have hend : 54 ≤ masksEnd data := by
    rw [masksEnd]
    split <;> omega
  rw [headersEnd, headersEnd, if_neg (by omega), if_neg (by omega), h.masksEnd_eq, h.longer,
    max_self, max_eq_right (by omega)]

lemma masks_eq : masks data' = masks data := by
  have hs := h.scheme_mem
  have hs' := h.scheme_mem'
  refine masks_congr (by omega) h.sameShape.depth_eq h.storesAlpha_iff fun _ => ?_
  exact h.slice_eq _ _ (Or.inr (by decide)) (Or.inr (by decide))

lemma sourceChecks_eq : sourceChecks data' = sourceChecks data := by
  have hs := h.scheme_mem
  have hs' := h.scheme_mem'
  have hmask : maskChecks data' = maskChecks data := by
    funext c
    rw [maskChecks, maskChecks, h.masks_eq, h.sameShape.depth_eq]
  rw [sourceChecks, sourceChecks, if_pos (by omega), if_pos (by omega), hmask, h.masksEnd_eq,
    h.length_eq]

/-- Both info headers are there. -/
lemma infoHeaderChecks_hold :
    verdict (infoHeaderChecks data) = .ok () ∧ verdict (infoHeaderChecks data') = .ok () := by
  have hsize := h.headerSize_eq
  have hsize' := h.longer
  have hmem' := h.headerSize_mem'
  have hle := h.masks_le
  have hlength := h.length_eq
  have hlast := h.headersEnd_eq
  simp only [verdict_eq_ok_iff, infoHeaderChecks, List.forall_mem_cons]
  simp only [List.mem_cons, List.not_mem_nil, or_false, false_implies, implies_true, and_true]
    at hmem' ⊢
  omega

/-- Both files pass the same checks, but for the name of the scheme. -/
lemma verdict_checks : verdict (checks data') =
    (verdict (checks data)).mapError (Error.renamed ⟨u32At data' 30⟩) := by
  have hs := h.scheme_mem
  have hs' := h.scheme_mem'
  have hdepth := h.sameShape.depth_eq
  obtain ⟨hinfo, hinfo'⟩ := h.infoHeaderChecks_hold
  rw [mapError_verdict, map_checks, checks, colorChecks, h.fileHeaderChecks_eq, h.pictureChecks_eq,
    h.sourceChecks_eq, h.pixelChecks_eq h.headersEnd_eq]
  refine verdict_append_congr ?_
  rw [verdict_append_of_ok hinfo, verdict_append_of_ok hinfo']
  refine verdict_append_congr ?_
  rw [List.cons_append, List.cons_append, verdict_cons, verdict_cons, hdepth]
  exact require_bind_congr (by omega) fun _ => rfl

/-- So they hold the same image, but for its labels, or are refused in the same way. -/
lemma value_read : (Image.read data').value =
    ((Image.read data).value.map (·.relabelled (u32At data' 14) ⟨u32At data' 30⟩)).mapError
      (Error.renamed ⟨u32At data' 30⟩) := by
  rw [Image.value_read, Image.value_read, h.verdict_checks]
  cases hverdict : verdict (checks data) with
  | error e => rfl
  | ok u =>
    have haccepts := accepts_iff.2 (verdict_eq_ok_iff.1 hverdict)
    have hsource : source data' = source data := by
      refine source_congr h.sameShape.depth_eq h.masks_eq fun h8 => ?_
      -- indices have no masks
      have hzero := haccepts.scheme_eq_zero h8
      have hs := h.scheme_mem
      omega
    show Except.ok (image data') = Except.ok _
    rw [h.image_eq haccepts hsource]

end TakesIn

/-- Three masks after the header, which a header of 52 bytes takes in. -/
lemma takesIn_three (hlength : 66 ≤ data.length) (hsize : headerSize data = 40)
    (hscheme : scheme data = 3) : TakesIn data (setWord data 14 52) := by
  have hr : Relabels data (setWord data 14 52) := .of_setSize (by omega)
  have hsize' : headerSize (setWord data 14 52) = 52 :=
    congrArg UInt32.toNat (u32At_setWord (by omega))
  have hscheme' : scheme (setWord data 14 52) = 3 := by
    rw [← hscheme]
    exact congrArg UInt32.toNat (u32At_congr (slice_setWord (by omega) (by decide)))
  have halpha : ¬ StoresAlpha data := by
    rw [StoresAlpha]
    omega
  have hend : masksEnd data = 66 := if_neg halpha
  exact {
    toRelabels := hr
    headerSize_eq := hsize
    scheme_mem := Or.inl hscheme
    scheme_mem' := Or.inl hscheme'
    headerSize_mem' := by
      rw [hsize']
      decide
    storesAlpha_iff := by
      rw [StoresAlpha, StoresAlpha]
      omega
    longer := by rw [hsize', hend]
    masks_le := by rwa [hend] }

/-- Four masks after the header, which a header of 56 bytes takes in under either scheme. -/
lemma takesIn_four (hlength : 70 ≤ data.length) (hsize : headerSize data = 40)
    (hscheme : scheme data = 6) (hs : s ∈ [Compression.bitfields, .alphaBitfields]) :
    TakesIn data (setWord (setWord data 14 56) 30 s.code) := by
  have hlength' : (setWord data 14 56).length = data.length := length_setWord (by omega)
  have hr : Relabels (setWord data 14 56) (setWord (setWord data 14 56) 30 s.code) :=
    .of_setScheme (by omega)
  have hsize' : headerSize (setWord (setWord data 14 56) 30 s.code) = 56 := by
    rw [headerSize, u32At_congr (slice_setWord (by omega) (by decide)),
      u32At_setWord (by omega)]
    rfl
  have hscheme' : scheme (setWord (setWord data 14 56) 30 s.code) = s.code.toNat :=
    congrArg UInt32.toNat (u32At_setWord (by omega))
  have hcode : s.code.toNat = 3 ∨ s.code.toNat = 6 := by
    simp only [List.mem_cons, List.not_mem_nil, or_false] at hs
    rcases hs with rfl | rfl <;> decide
  have halpha : StoresAlpha data := Or.inr ⟨hsize, hscheme⟩
  have hend : masksEnd data = 70 := if_pos halpha
  exact {
    toRelabels := Relabels.trans (.of_setSize (by omega)) hr
    headerSize_eq := hsize
    scheme_mem := Or.inr hscheme
    scheme_mem' := by rwa [hscheme']
    headerSize_mem' := by
      rw [hsize']
      decide
    storesAlpha_iff := by
      rw [StoresAlpha, StoresAlpha]
      omega
    longer := by rw [hsize', hend]
    masks_le := by rwa [hend] }

/-! ## Masks that need not be mentioned -/

/-- A header that has room for masks is followed by nothing else, unless pixels are indices. -/
lemma headersEnd_of_long (hmem : headerSize data ∈ [40, 52, 56, 108, 124])
    (hlong : 52 ≤ headerSize data) (h8 : 8 < depth data) :
    headersEnd data = 14 + headerSize data := by
  rw [headersEnd]
  split
  · rw [tableBytes, if_neg (by omega), Nat.add_zero]
  · exact max_eq_left (masksEnd_le hmem (by omega))

/-- The masks that a depth implies are such as a file may store. -/
lemma isRunBelow_standard {n : Nat} (hn : n = 16 ∨ n = 32) (c : Channel) :
    IsRunBelow n ((ChannelMasks.standard n).get c).toNat := by
  rw [Mask.isRunBelow_iff]
  refine ⟨?_, isRun_standard n c⟩
  rcases hn with rfl | rfl <;> cases c <;> decide

lemma masks_of_stored (h : storedMasks data = .standard (depth data)) :
    masks data = .standard (depth data) := by
  rw [masks]
  split
  · rfl
  · exact h

/-- The masks of the depth, stored in a longer header, may be mentioned or not. -/
lemma image_setScheme (haccepts : Accepts data) (hdepth : depth data = 16 ∨ depth data = 32)
    (hlong : 52 ≤ headerSize data) (hstored : storedMasks data = .standard (depth data))
    (hs : s ∈ [Compression.rgb, .bitfields]) :
    Accepts (setWord data 30 s.code) ∧
      image (setWord data 30 s.code) = (image data).relabelled (u32At data 14) s := by
  have hfields := haccepts.header_le
  have hr : Relabels data (setWord data 30 s.code) := .of_setScheme (by omega)
  have hshape := hr.sameShape
  have hword : u32At (setWord data 30 s.code) 14 = u32At data 14 :=
    u32At_congr (slice_setWord (by omega) (by decide))
  have hcode : u32At (setWord data 30 s.code) 30 = s.code := u32At_setWord (by omega)
  have hsize : headerSize (setWord data 30 s.code) = headerSize data :=
    congrArg UInt32.toNat hword
  have hscheme : scheme (setWord data 30 s.code) = 0 ∨ scheme (setWord data 30 s.code) = 3 := by
    rw [scheme, hcode]
    simp only [List.mem_cons, List.not_mem_nil, or_false] at hs
    rcases hs with rfl | rfl <;> decide
  have halpha : StoresAlpha (setWord data 30 s.code) ↔ StoresAlpha data := by
    rw [StoresAlpha, StoresAlpha, hsize]
    omega
  have hstored' : storedMasks (setWord data 30 s.code) =
      .standard (depth (setWord data 30 s.code)) := by
    rw [hshape.depth_eq, ← hstored]
    exact storedMasks_congr halpha (hr.slice_eq _ _ (Or.inr (by decide)) (Or.inr (by decide)))
  have hmasks : masks (setWord data 30 s.code) = .standard (depth data) := by
    rw [masks_of_stored hstored', hshape.depth_eq]
  have hend : headersEnd (setWord data 30 s.code) = headersEnd data := by
    have hmem := haccepts.headerSize_mem
    rw [headersEnd_of_long hmem hlong (by omega), headersEnd_of_long (by rwa [hsize]) (by omega)
      (by rw [hshape.depth_eq]; omega), hsize]
  have haccepts' : Accepts (setWord data 30 s.code) := by
    refine hshape.accepts haccepts hr.signature_eq ?_ ?_ ?_ ?_ hend ?_
    · rw [hr.fileSize_eq, hr.length_eq]
      exact haccepts.fileSize_le
    · rw [hsize]
      exact haccepts.headerSize_mem
    · omega
    · rw [hmasks]
      exact fun _ => isRunBelow_standard hdepth
    · rw [hr.length_eq]
      exact haccepts.pixels_le
  refine ⟨haccepts', ?_⟩
  have hsource : source (setWord data 30 s.code) = source data :=
    source_congr hshape.depth_eq (hmasks.trans (masks_of_stored hstored).symm) fun h8 => by omega
  rw [hr.image_eq haccepts hsource, hword, hcode]

end Format

namespace Image

variable {data data' : Bytes} {size : UInt32} {s : Compression}

/-! ## Pictures -/

/-- Once a file has been read, no error names the compression scheme. -/
lemma mapError_picture (limits : Limits) (i : Image) (s : Compression) :
    (limits.checkDimensions i.width i.height >>= fun _ => i.bitmap).mapError (Error.renamed s) =
      limits.checkDimensions i.width i.height >>= fun _ => i.bitmap := by
  rw [Limits.checkDimensions]
  by_cases hfits : i.width ≤ limits.maxWidth ∧ i.height ≤ limits.maxHeight
  · rw [require_bind hfits]
    cases hbitmap : i.bitmap with
    | error e => exact congrArg _ (Error.renamed_of_malformed (kind_of_bitmap_eq_error hbitmap) s)
    | ok b => rfl
  · rw [require_bind_of_not hfits]
    rfl

/-- The labels of an image have no bearing on its picture. -/
lemma value_decode_relabelled (limits : Limits)
    (h : (read data').value =
      ((read data).value.map (·.relabelled size s)).mapError (Error.renamed s)) :
    (Bitmap.decode limits data').value =
      (Bitmap.decode limits data).value.mapError (Error.renamed s) := by
  rw [Bitmap.value_decode, Bitmap.value_decode, h, mapError_bind]
  cases (read data).value with
  | error e => rfl
  | ok i => exact (mapError_picture limits i s).symm

lemma map_content_relabelled
    (h : (read data').value =
      ((read data).value.map (·.relabelled size s)).mapError (Error.renamed s)) :
    (read data').value.map content =
      ((read data).value.map content).mapError (Error.renamed s) := by
  rw [h]
  cases (read data).value <;> rfl

/-- An error that names the scheme of the file has that name already. -/
lemma mapError_read_self (data : Bytes) :
    (read data).value.mapError (Error.renamed ⟨u32At data 30⟩) = (read data).value := by
  have hchecks : (checks data).map (Check.mapError (Error.renamed ⟨u32At data 30⟩)) = checks data :=
    map_checks data _
  have hverdict := mapError_verdict (Error.renamed ⟨u32At data 30⟩) (checks data)
  rw [hchecks] at hverdict
  rw [value_read]
  cases hv : verdict (checks data) with
  | error e =>
    rw [hv] at hverdict
    exact congrArg Except.error (Except.error.inj hverdict)
  | ok u => rfl

lemma mapError_decode_self (limits : Limits) (data : Bytes) :
    (Bitmap.decode limits data).value.mapError (Error.renamed ⟨u32At data 30⟩) =
      (Bitmap.decode limits data).value := by
  rw [Bitmap.value_decode, mapError_bind, mapError_read_self]
  congr 1
  funext i
  exact mapError_picture limits i _

/-- **The ways in which masks are given agree.**  A file whose info header of 40 bytes is followed
by masks is read, or refused, just like the file in which the header is longer and has them as a
part, and has the same picture; of four masks, either compression scheme with masks does.  A file of
16 or 32 bits that stores the masks of its depth in a longer header has the same picture whether the
compression scheme mentions them or not. -/
theorem mask_routes_agree (data : Bytes) :
    (66 ≤ data.length → headerSize data = 40 → scheme data = 3 →
      (read (setWord data 14 52)).value.map content = (read data).value.map content ∧
      ∀ limits, (Bitmap.decode limits (setWord data 14 52)).value =
        (Bitmap.decode limits data).value) ∧
    (70 ≤ data.length → headerSize data = 40 → scheme data = 6 →
      ∀ s ∈ [Compression.bitfields, .alphaBitfields],
        (read (setWord (setWord data 14 56) 30 s.code)).value.map content =
          ((read data).value.map content).mapError (Error.renamed s) ∧
        ∀ limits, (Bitmap.decode limits (setWord (setWord data 14 56) 30 s.code)).value =
          (Bitmap.decode limits data).value.mapError (Error.renamed s)) ∧
    ∀ i, (read data).value = .ok i → i.depth.bits = 16 ∨ i.depth.bits = 32 →
      52 ≤ headerSize data → storedMasks data = .standard i.depth.bits →
      ∀ s ∈ [Compression.rgb, .bitfields], ∀ limits,
        (Bitmap.decode limits (setWord data 30 s.code)).value =
          (Bitmap.decode limits data).value := by
  refine ⟨fun hlength hsize hscheme => ?_, fun hlength hsize hscheme s hs => ?_, ?_⟩
  · have htakes := takesIn_three hlength hsize hscheme
    have hcode : u32At (setWord data 14 52) 30 = u32At data 30 :=
      u32At_congr (slice_setWord (by omega) (by decide))
    have hread := htakes.value_read
    rw [hcode] at hread
    refine ⟨?_, fun limits => ?_⟩
    · rw [map_content_relabelled hread, mapError_map, mapError_read_self]
    · rw [value_decode_relabelled limits hread, mapError_decode_self]
  · have htakes := takesIn_four hlength hsize hscheme hs
    have hcode : u32At (setWord (setWord data 14 56) 30 s.code) 30 = s.code := by
      refine u32At_setWord ?_
      rw [length_setWord (by omega)]
      omega
    have hread := htakes.value_read
    rw [hcode] at hread
    exact ⟨map_content_relabelled hread, fun limits => value_decode_relabelled limits hread⟩
  · intro i hread hdepth hlong hstored s hs limits
    obtain ⟨haccepts, rfl⟩ := read_eq_ok_iff.1 hread
    rw [depth_image haccepts] at hdepth hstored
    obtain ⟨haccepts', himage⟩ := image_setScheme haccepts hdepth hlong hstored hs
    rw [Bitmap.value_decode, Bitmap.value_decode, hread, read_eq_ok_iff.2 ⟨haccepts', rfl⟩, himage]
    rfl

/-- The sample file has four masks after its header, which are those of its depth; with another
scheme, only three of them count, and with a longer header, they need not be mentioned. -/
theorem mask_routes_agree_sample :
    headerSize maskedSample = 40 ∧ scheme maskedSample = 6 ∧
      (read maskedSample).value = .ok (image maskedSample) ∧
      (read (setWord (setWord maskedSample 30 3) 14 52)).value.map content =
        (read (setWord maskedSample 30 3)).value.map content ∧
      (read (setWord (setWord maskedSample 14 56) 30 3)).value.map content =
        ((read maskedSample).value.map content).mapError (Error.renamed .bitfields) ∧
      ∀ limits, (Bitmap.decode limits (setWord (setWord maskedSample 14 56) 30 0)).value =
        (Bitmap.decode limits (setWord maskedSample 14 56)).value := by
  obtain ⟨hthree, -, -⟩ := mask_routes_agree (setWord maskedSample 30 3)
  obtain ⟨-, hfour, -⟩ := mask_routes_agree maskedSample
  obtain ⟨-, -, hlong⟩ := mask_routes_agree (setWord maskedSample 14 56)
  refine ⟨rfl, rfl, rfl, (hthree (by decide) (by decide) (by decide)).1, ?_, ?_⟩
  · exact (hfour (by decide) (by decide) (by decide) .bitfields List.mem_cons_self).1
  · exact hlong _ rfl (Or.inl rfl) (by decide) (by decide) .rgb List.mem_cons_self

end Image

end Bmp

end Raster
