import Raster.Proofs.Format
import Raster.Proofs.Masks
import Raster.Proofs.Verdict
import Raster.Bmp.Reading
import Mathlib

/-!
# Reading as a list of checks

The reader of bitmap files goes through the file with a cursor and builds the image on the way.
Here it is brought into a form without a cursor: `Format.checks` lists the checks that it makes,
each a condition on fields at offsets of the format with the error of its failure, and
`Format.image` is the image at these offsets.  Reading is the verdict of the checks, with that image
if they all hold (`Image.value_read`).

Each stage of the reader is brought into this form on its own, under what the stages before it have
found: `fileHeader_read`, `infoHeader_take`, `infoHeader_depth`, `infoHeader_takeColors` and
`pixelArray_eq`.
-/

namespace Raster

open LittleEndian Bmp Bmp.Format

/-! ## Reads of a cursor -/

namespace Cursor

/-- A read is a check of what remains. -/
lemma peekUInt32_eq_bind (c : Cursor) :
    c.peekUInt32 = require (4 ≤ c.remaining.length) .endOfData >>= fun _ =>
      .ok (u32At c.remaining 0) := by
  rw [peekUInt32, require]
  split <;> rfl

lemma take_eq_bind (count : Nat) (c : Cursor) :
    c.take count = require (count ≤ c.remaining.length) .endOfData >>= fun _ =>
      .ok (c.remaining.take count, ⟨c.data, c.position + count⟩) := by
  rw [take, require]
  split <;> rfl

lemma le_length_remaining {data : Bytes} {position count : Nat} (hcount : 0 < count) :
    count ≤ (remaining ⟨data, position⟩).length ↔ position + count ≤ data.length := by
  show count ≤ (data.drop position).length ↔ _
  rw [List.length_drop]
  omega

lemma peekUInt32_eq (data : Bytes) (position : Nat) :
    peekUInt32 ⟨data, position⟩ =
      (require (position + 4 ≤ data.length) .endOfData).map fun _ => u32At data position := by
  rw [peekUInt32_eq_bind, map_eq_bind]
  refine require_bind_congr (le_length_remaining (by decide)) fun _ => ?_
  simp [u32At, remaining]

lemma take_eq {count : Nat} (hcount : 0 < count) (data : Bytes) (position : Nat) :
    take count ⟨data, position⟩ =
      (require (position + count ≤ data.length) .endOfData).map fun _ =>
        (slice data position count, ⟨data, position + count⟩) := by
  rw [take_eq_bind, map_eq_bind]
  exact require_bind_congr (le_length_remaining hcount) fun _ => rfl

lemma takeUInt32_eq (data : Bytes) (position : Nat) :
    takeUInt32 ⟨data, position⟩ =
      (require (position + 4 ≤ data.length) .endOfData).map fun _ =>
        (u32At data position, ⟨data, position + 4⟩) := by
  rw [takeUInt32]
  rw [peekUInt32_eq, map_bind]
  cases require (position + 4 ≤ data.length) Error.endOfData <;> rfl

end Cursor

/-! ## The checks -/

namespace Bmp.Format

variable (data : Bytes)

/-- The checks of the file header. -/
def fileHeaderChecks : List Check :=
  [⟨2 ≤ data.length → data.take 2 = [0x42, 0x4d], .missingSignature (data.take 2)⟩,
   ⟨14 ≤ data.length, .endOfData⟩,
   ⟨fileSize data ≤ data.length, .missingBytes (fileSize data) data.length⟩]

/-- The checks of the size of the info header. -/
def infoHeaderChecks : List Check :=
  [⟨18 ≤ data.length, .endOfData⟩,
   ⟨headerSize data ≠ 12, .coreHeader⟩,
   ⟨headerSize data ∈ [40, 52, 56, 108, 124], .invalidHeaderSize (headerSize data)⟩,
   ⟨14 + headerSize data ≤ data.length, .endOfData⟩]

/-- The checks of the fields that describe the picture. -/
def pictureChecks : List Check :=
  [⟨0 < width data, .invalidWidth (width data)⟩,
   ⟨height data ≠ 0, .invalidHeight (height data)⟩,
   ⟨planes data = 1, .invalidPlanes (planes data)⟩,
   ⟨depth data ∈ [1, 4, 8, 16, 24, 32], .unsupportedDepth (depth data)⟩]

/-- The checks of the mask of a channel. -/
def maskChecks (c : Channel) : List Check :=
  let mask := (masks data).get c
  [⟨mask.Fits (depth data), .invalidMask c mask (depth data) .tooWide⟩,
   ⟨mask.IsRun, .invalidMask c mask (depth data) .broken⟩]

/-- The checks of the masks, the color table, or neither of them. -/
def sourceChecks : List Check :=
  if scheme data ≠ 0 then
    ⟨masksEnd data ≤ data.length, .endOfData⟩ :: Channel.all.flatMap (maskChecks data)
  else if depth data ≤ 8 then
    [⟨colorsUsed data ≤ 2 ^ depth data,
        .tooManyColors (colorsUsed data) (2 ^ depth data) (depth data)⟩,
     ⟨14 + headerSize data + 4 * tableSize data ≤ data.length, .endOfData⟩]
  else []

/-- The checks of the source of the colors. -/
def colorChecks : List Check :=
  ⟨scheme data = 0 ∨ (scheme data = 3 ∨ scheme data = 6) ∧ (depth data = 16 ∨ depth data = 32),
    .unsupportedCompression ⟨u32At data 30⟩ (depth data)⟩ :: sourceChecks data

/-- The checks of the pixel array. -/
def pixelChecks : List Check :=
  [⟨headersEnd data ≤ pixelOffset data, .overlappingHeaders (pixelOffset data) (headersEnd data)⟩,
   ⟨pixelOffset data + pixelBytes data ≤ data.length,
    .missingPixels (pixelBytes data) (pixelOffset data) data.length⟩]

/-- The checks of a bitmap file, in the order in which they are made. -/
def checks : List Check :=
  fileHeaderChecks data ++ (infoHeaderChecks data ++ (pictureChecks data ++
    (colorChecks data ++ pixelChecks data)))

/-! ## The image -/

/-- The depth of the picture; it matters only if there is such a depth. -/
def pixelDepth : Depth := (Depth.ofBits? (depth data)).getD .one

/-- The color table. -/
def table : ColorTable :=
  (pieces (tableSize data) 4 (slice data (14 + headerSize data) (4 * tableSize data))).map
    TableEntry.ofBytes

/-- The source of the colors. -/
def source : ColorSource :=
  if depth data ≤ 8 then .table (table data)
  else if depth data = 24 then .direct
  else .masks (masks data)

/-- The image that stands at the offsets of the format. -/
def image : Image where
  fileHeader := .ofBytes (slice data 0 14)
  infoHeader := .ofBytes (slice data 14 40)
  depth := pixelDepth data
  source := source data
  pixelData := slice data (pixelOffset data) (pixelBytes data)

/-! ## The stages of the reader -/

lemma fileHeader_slice :
    FileHeader.ofBytes (slice data 0 14) =
      ⟨u16At data 0, u32At data 2, u16At data 6, u16At data 8, u32At data 10⟩ := by
  simp [FileHeader.ofBytes, u16At_slice, u32At_slice]

lemma infoHeader_slice {count : Nat} (h : 40 ≤ count) :
    InfoHeader.ofBytes (slice data 14 count) =
      ⟨u32At data 14, (u32At data 18).toInt32, (u32At data 22).toInt32, u16At data 26,
        u16At data 28, ⟨u32At data 30⟩, u32At data 34, u32At data 38, u32At data 42,
        u32At data 46, u32At data 50⟩ := by
  have hle {k : Nat} (hk : k ≤ 40) : k ≤ count := hk.trans h
  simp [InfoHeader.ofBytes, u16At_slice (hle _), u32At_slice (hle _)]

/-- The two characters of the signature, as the word that the header holds. -/
lemma u16At_eq_signature_iff {data : Bytes} (h : 2 ≤ data.length) :
    u16At data 0 = FileHeader.signature ↔ data.take 2 = [0x42, 0x4d] := by
  obtain ⟨a, b, htake⟩ := List.length_eq_two.1 (List.length_take_of_le h)
  have ha := a.toNat_lt
  have hb := b.toNat_lt
  simp only [u16At, List.drop_zero, htake, decode_cons, decode_nil, FileHeader.signature,
    ← UInt16.toNat_inj, UInt16.toNat_ofNat', List.cons.injEq, and_true, ← UInt8.toNat_inj]
  simp only [UInt16.reduceToNat, UInt8.reduceToNat]
  omega

/-- The first stage: the file header. -/
lemma fileHeader_read :
    FileHeader.read data =
      (verdict (fileHeaderChecks data)).map fun _ => FileHeader.ofBytes (slice data 0 14) := by
  have hsize : (FileHeader.ofBytes (slice data 0 14)).fileSize.toNat = fileSize data := by
    rw [fileHeader_slice]
    rfl
  rw [FileHeader.read, fileHeaderChecks]
  rw [map_verdict_cons]
  refine require_bind_congr (imp_congr_right u16At_eq_signature_iff) fun _ => ?_
  rw [Cursor.start, Cursor.take_eq (by decide), map_verdict_cons, map_bind]
  refine require_bind_congr (by simp [FileHeader.size]) fun _ => ?_
  rw [map_verdict_cons, ← hsize]
  rfl

lemma mem_sizes_iff {size : UInt32} :
    size ∈ InfoHeader.sizes ↔ size.toNat ∈ [40, 52, 56, 108, 124] := by
  simp [InfoHeader.sizes, ← UInt32.toNat_inj]

lemma le_of_mem_sizes {n : Nat} (h : n ∈ [40, 52, 56, 108, 124]) : 40 ≤ n := by
  simp only [List.mem_cons, List.not_mem_nil, or_false] at h
  omega

/-- The second stage: the info header, with the bytes after its first 40. -/
lemma infoHeader_take :
    InfoHeader.take ⟨data, FileHeader.size⟩ =
      (verdict (infoHeaderChecks data)).map fun _ =>
        (InfoHeader.ofBytes (slice data 14 40), slice data 54 (headerSize data - 40),
          ⟨data, 14 + headerSize data⟩) := by
  rw [InfoHeader.take, infoHeaderChecks]
  rw [Cursor.peekUInt32_eq, map_verdict_cons, map_bind]
  refine require_bind_congr Iff.rfl fun _ => ?_
  rw [map_verdict_cons]
  refine require_bind_congr ?_ fun _ => ?_
  · simp [InfoHeader.coreSize, headerSize, FileHeader.size, ← UInt32.toNat_inj]
  rw [map_verdict_cons]
  refine require_bind_congr mem_sizes_iff fun hmem => ?_
  have hsize : 40 ≤ headerSize data := le_of_mem_sizes (mem_sizes_iff.1 hmem)
  rw [Cursor.take_eq (show 0 < (u32At data FileHeader.size).toNat from by
    exact lt_of_lt_of_le (by decide) hsize), map_verdict_cons, map_bind]
  refine require_bind_congr Iff.rfl fun _ => ?_
  have hrecord := (infoHeader_slice data hsize).trans (infoHeader_slice data le_rfl).symm
  have hrest : (slice data 14 (headerSize data)).drop InfoHeader.size =
      slice data 54 (headerSize data - 40) := by
    simp [slice, List.drop_take, InfoHeader.size]
  exact congrArg Except.ok (Prod.ext hrecord (Prod.ext hrest rfl))

/-- There is a depth for six numbers of bits. -/
lemma isSome_ofBits?_iff {n : Nat} :
    (Depth.ofBits? n).isSome ↔ n ∈ [1, 4, 8, 16, 24, 32] := by
  constructor
  · intro h
    obtain ⟨d, hd⟩ := Option.isSome_iff_exists.1 h
    rw [← Depth.bits_of_ofBits? hd]
    cases d <;> decide
  · intro h
    simp only [List.mem_cons, List.not_mem_nil, or_false] at h
    rcases h with rfl | rfl | rfl | rfl | rfl | rfl <;> rfl

/-- The third stage: the depth of the picture. -/
lemma infoHeader_depth :
    (InfoHeader.ofBytes (slice data 14 40)).depth =
      (verdict (pictureChecks data)).map fun _ => pixelDepth data := by
  rw [infoHeader_slice data le_rfl]
  rw [InfoHeader.depth, pictureChecks]
  rw [map_verdict_cons]
  refine require_bind_congr ?_ fun _ => ?_
  · exact Int32.lt_iff_toInt_lt
  rw [map_verdict_cons]
  refine require_bind_congr ?_ fun _ => ?_
  · exact not_congr Int32.toInt_inj.symm
  rw [map_verdict_cons]
  refine require_bind_congr ?_ fun _ => ?_
  · exact UInt16.toNat_inj.symm
  rw [map_verdict_cons]
  cases h : Depth.ofBits? (depth data) with
  | some d =>
    have hmem := isSome_ofBits?_iff.1 (Option.isSome_iff_exists.2 ⟨d, h⟩)
    rw [require_bind hmem, map_verdict_nil, pixelDepth, h]
    rw [depth] at h
    rw [h]
    rfl
  | none =>
    have hmem : ¬ depth data ∈ [1, 4, 8, 16, 24, 32] := by
      rw [← isSome_ofBits?_iff, h]
      simp
    rw [require_bind_of_not hmem]
    rw [depth] at h
    rw [h]
    rfl

/-! ### Masks and color table -/

/-- Three or four masks are read if all of them are there. -/
lemma masks_take (withAlpha : Bool) (position : Nat) :
    ChannelMasks.take withAlpha ⟨data, position⟩ =
      (require (position + (if withAlpha then 16 else 12) ≤ data.length) .endOfData).map fun _ =>
        (⟨u32At data position, u32At data (position + 4), u32At data (position + 8),
            if withAlpha then u32At data (position + 12) else 0⟩,
          ⟨data, position + if withAlpha then 16 else 12⟩) := by
  rw [ChannelMasks.take]
  simp only [Cursor.takeUInt32_eq, map_bind]
  cases withAlpha with
  | true =>
    simp only [if_true]
    rw [require_absorb (by omega), require_absorb (by omega), require_absorb (by omega)]
    rfl
  | false =>
    simp only [Bool.false_eq_true, if_false]
    rw [require_absorb (by omega), require_absorb (by omega)]
    rfl

variable {data}

lemma masks_of_scheme_ne (h : scheme data ≠ 0) :
    masks data = ⟨u32At data 54, u32At data 58, u32At data 62,
      if StoresAlpha data then u32At data 66 else 0⟩ := if_neg h

/-- A header of 52 or more bytes holds the masks after its first 40 bytes. -/
lemma infoHeader_takeMasks_long (hscheme : scheme data ≠ 0) (hlong : 52 ≤ headerSize data)
    (hmem : headerSize data ∈ [40, 52, 56, 108, 124]) (hle : 14 + headerSize data ≤ data.length)
    (c : Cursor) :
    (InfoHeader.ofBytes (slice data 14 40)).takeMasks (slice data 54 (headerSize data - 40)) c =
      .ok (masks data, c) := by
  have hlength := length_slice (show 54 + (headerSize data - 40) ≤ data.length by omega)
  have halpha : StoresAlpha data ↔ 56 ≤ headerSize data := by
    rw [StoresAlpha]
    omega
  have hchoice : decide (56 ≤ u32At data 14) = decide (StoresAlpha data) := by
    rw [decide_eq_decide, halpha]
    exact UInt32.le_iff_toNat_le
  -- the extension has 12 bytes if there are three masks, and at least 16 if there are four
  have hpresent : 0 + (if decide (StoresAlpha data) = true then 16 else 12) ≤
      (slice data 54 (headerSize data - 40)).length := by
    simp only [List.mem_cons, List.not_mem_nil, or_false] at hmem
    simp only [hlength, decide_eq_true_eq, halpha]
    split <;> omega
  have h52 : 52 ≤ u32At data 14 := UInt32.le_iff_toNat_le.2 hlong
  rw [infoHeader_slice data le_rfl, InfoHeader.takeMasks, if_pos h52, Cursor.start, hchoice,
    masks_take, map_bind, require_bind hpresent, masks_of_scheme_ne hscheme, u32At_slice (by omega),
    u32At_slice (by omega), u32At_slice (by omega)]
  by_cases h : StoresAlpha data
  · have h56 := halpha.1 h
    simp only [h, decide_true, if_true]
    rw [u32At_slice (by omega)]
    rfl
  · simp only [h, decide_false, Bool.false_eq_true, if_false]
    rfl

/-- A header of 40 bytes is followed by the masks. -/
lemma infoHeader_takeMasks_short (hscheme : scheme data ≠ 0) (hshort : headerSize data = 40)
    (extension : Bytes) :
    (InfoHeader.ofBytes (slice data 14 40)).takeMasks extension ⟨data, 14 + headerSize data⟩ =
      (require (masksEnd data ≤ data.length) .endOfData).map fun _ =>
        (masks data, ⟨data, masksEnd data⟩) := by
  have halpha : StoresAlpha data ↔ scheme data = 6 := by
    rw [StoresAlpha]
    omega
  have hchoice : decide ((⟨u32At data 30⟩ : Compression) = .alphaBitfields) =
      decide (StoresAlpha data) := by
    rw [decide_eq_decide, halpha, Compression.alphaBitfields, Compression.mk.injEq,
      ← UInt32.toNat_inj]
    rfl
  have hnot : ¬ 52 ≤ u32At data 14 := by
    rw [UInt32.le_iff_toNat_le]
    exact not_le.2 (lt_of_eq_of_lt hshort (by decide))
  rw [infoHeader_slice data le_rfl, InfoHeader.takeMasks, if_neg hnot, hchoice, masks_take,
    hshort, masks_of_scheme_ne hscheme, masksEnd]
  by_cases h : StoresAlpha data
  · simp only [h, decide_true, if_true]
  · simp only [h, decide_false, Bool.false_eq_true, if_false]

/-- The masks are where the kind of the header says, and end where it says. -/
lemma infoHeader_takeMasks (hscheme : scheme data ≠ 0)
    (hmem : headerSize data ∈ [40, 52, 56, 108, 124]) (hle : 14 + headerSize data ≤ data.length) :
    (InfoHeader.ofBytes (slice data 14 40)).takeMasks (slice data 54 (headerSize data - 40))
        ⟨data, 14 + headerSize data⟩ =
      (require (masksEnd data ≤ data.length) .endOfData).map fun _ =>
        (masks data, ⟨data, headersEnd data⟩) := by
  have hend : headersEnd data = max (14 + headerSize data) (masksEnd data) := if_neg hscheme
  by_cases hlong : 52 ≤ headerSize data
  · have hends : masksEnd data ≤ 14 + headerSize data := by
      simp only [List.mem_cons, List.not_mem_nil, or_false] at hmem
      by_cases h : StoresAlpha data
      · rw [masksEnd, if_pos h]
        rw [StoresAlpha] at h
        omega
      · rw [masksEnd, if_neg h]
        omega
    rw [infoHeader_takeMasks_long hscheme hlong hmem hle, hend, max_eq_left hends, require,
      if_pos (hends.trans hle)]
    rfl
  · have hshort : headerSize data = 40 := by
      simp only [List.mem_cons, List.not_mem_nil, or_false] at hmem
      omega
    have hends : 14 + headerSize data ≤ masksEnd data := by
      rw [masksEnd]
      split <;> omega
    rw [infoHeader_takeMasks_short hscheme hshort, hend, max_eq_right hends]

/-- The checks of the masks end with the first mask that is at fault. -/
lemma verdict_maskChecks {α : Type} (cs : List Channel) (f : Unit → α) :
    (verdict (cs.flatMap (maskChecks data))).map f =
      match cs.findSome? fun c => (((masks data).get c).fault? (depth data)).map (c, ·) with
      | some (c, fault) => .error (.invalidMask c ((masks data).get c) (depth data) fault)
      | none => .ok (f ()) := by
  induction cs with
  | nil => rfl
  | cons c cs ih =>
    rw [List.flatMap_cons, List.findSome?_cons, maskChecks, List.cons_append, List.cons_append,
      List.nil_append, map_verdict_cons, map_verdict_cons]
    by_cases hfits : ((masks data).get c).Fits (depth data)
    · by_cases hrun : ((masks data).get c).IsRun
      · rw [require_bind hfits, require_bind hrun, ih, Mask.fault?_eq_none_iff.2 ⟨hfits, hrun⟩]
        rfl
      · have hfault : ((masks data).get c).fault? (depth data) = some .broken := by
          rw [Mask.fault?, if_neg (not_not.2 hfits), if_pos hrun]
        rw [require_bind hfits, require_bind_of_not hrun, hfault]
        rfl
    · have hfault : ((masks data).get c).fault? (depth data) = some .tooWide := by
        rw [Mask.fault?, if_pos hfits]
      rw [require_bind_of_not hfits, hfault]
      rfl

/-- The number of entries of the color table is the declared one, or the largest. -/
lemma infoHeader_tableSize {d : Depth} (hd : d.bits = depth data) :
    (InfoHeader.ofBytes (slice data 14 40)).tableSize d =
      (require (colorsUsed data ≤ 2 ^ depth data)
        (.tooManyColors (colorsUsed data) (2 ^ depth data) (depth data))).map
        fun _ => tableSize data := by
  have hcolors : d.colors = 2 ^ depth data := by rw [Depth.colors_eq, hd]
  have hused : (u32At data 46).toNat = colorsUsed data := rfl
  have hzero : u32At data 46 = 0 ↔ colorsUsed data = 0 := UInt32.toNat_inj.symm
  rw [infoHeader_slice data le_rfl, InfoHeader.tableSize, tableSize, hcolors, hd]
  by_cases h : colorsUsed data = 0
  · rw [if_pos (hzero.2 h), if_pos h, require, if_pos (by omega)]
    rfl
  · rw [if_neg (mt hzero.1 h), if_neg h, hused, require]
    by_cases hle : colorsUsed data ≤ 2 ^ depth data
    · rw [if_pos hle, if_pos hle]
      rfl
    · rw [if_neg hle, if_neg hle]
      rfl

/-- The color table is where the header ends. -/
lemma infoHeader_takeTable {d : Depth} (hd : d.bits = depth data) :
    (InfoHeader.ofBytes (slice data 14 40)).takeTable d ⟨data, 14 + headerSize data⟩ =
      (verdict [⟨colorsUsed data ≤ 2 ^ depth data,
            .tooManyColors (colorsUsed data) (2 ^ depth data) (depth data)⟩,
          ⟨14 + headerSize data + 4 * tableSize data ≤ data.length, .endOfData⟩]).map
        fun _ => (table data, ⟨data, 14 + headerSize data + 4 * tableSize data⟩) := by
  have hsize : 0 < tableSize data := by
    rw [tableSize]
    split
    · positivity
    · omega
  unfold InfoHeader.takeTable Cursor.takeRecords
  rw [infoHeader_tableSize hd, map_bind, map_verdict_cons]
  refine require_bind_congr Iff.rfl fun _ => ?_
  rw [Cursor.take_eq (by omega), map_bind, map_verdict_cons]
  refine require_bind_congr ?_ fun _ => ?_
  · rw [Nat.mul_comm]
  · rw [Nat.mul_comm]
    rfl

/-! ### The source of the colors -/

lemma bits_pixelDepth (h : depth data ∈ [1, 4, 8, 16, 24, 32]) :
    (pixelDepth data).bits = depth data := by
  obtain ⟨d, hd⟩ := Option.isSome_iff_exists.1 (isSome_ofBits?_iff.2 h)
  rw [pixelDepth, hd]
  exact Depth.bits_of_ofBits? hd

lemma hasMasks_iff {d : Depth} : d.hasMasks = true ↔ d.bits = 16 ∨ d.bits = 32 := by
  cases d <;> decide

/-- The fourth stage: the source of the colors, and where the headers end. -/
lemma infoHeader_takeColors (hmem : headerSize data ∈ [40, 52, 56, 108, 124])
    (hle : 14 + headerSize data ≤ data.length) (hdepth : depth data ∈ [1, 4, 8, 16, 24, 32]) :
    (InfoHeader.ofBytes (slice data 14 40)).takeColors (pixelDepth data)
        (slice data 54 (headerSize data - 40)) ⟨data, 14 + headerSize data⟩ =
      (verdict (colorChecks data)).map fun _ => (source data, ⟨data, headersEnd data⟩) := by
  have hd := bits_pixelDepth hdepth
  have hcompression : (InfoHeader.ofBytes (slice data 14 40)).compression = ⟨u32At data 30⟩ := by
    rw [infoHeader_slice data le_rfl]
  have hrgb : (⟨u32At data 30⟩ : Compression) = .rgb ↔ scheme data = 0 := by
    rw [Compression.rgb, Compression.mk.injEq, ← UInt32.toNat_inj]
    rfl
  have hstores : (⟨u32At data 30⟩ : Compression).storesMasks = true ↔
      scheme data = 3 ∨ scheme data = 6 := by
    simp only [Compression.storesMasks, Compression.bitfields, Compression.alphaBitfields,
      Compression.mk.injEq, Bool.or_eq_true, decide_eq_true_eq, ← UInt32.toNat_inj]
    rfl
  have hmasks : (pixelDepth data).hasMasks = true ↔ depth data = 16 ∨ depth data = 32 := by
    rw [hasMasks_iff, hd]
  rw [InfoHeader.takeColors, hcompression, colorChecks, map_verdict_cons]
  by_cases hs : scheme data = 0
  · have hend : headersEnd data = 14 + headerSize data + tableBytes data := if_pos hs
    rw [if_pos (hrgb.2 hs), require_bind (Or.inl hs), sourceChecks, if_neg (not_not.2 hs), hend,
      tableBytes]
    by_cases h8 : depth data ≤ 8
    · have hsource : source data = .table (table data) := if_pos h8
      rw [if_pos (Depth.isIndexed_iff.2 (hd.trans_le h8)), if_pos h8, if_pos h8,
        infoHeader_takeTable hd, map_bind, hsource]
      cases verdict _ <;> rfl
    · rw [if_neg (mt Depth.isIndexed_iff.1 (hd ▸ h8)), if_neg h8, if_neg h8, map_verdict_nil]
      by_cases h24 : depth data = 24
      · have hsource : source data = .direct := by rw [source, if_neg h8, if_pos h24]
        rw [if_neg (by rw [hmasks]; omega), hsource]
        rfl
      · have hsource : source data = .masks (.standard (depth data)) := by
          rw [source, if_neg h8, if_neg h24, masks, if_pos hs]
        simp only [List.mem_cons, List.not_mem_nil, or_false] at hdepth
        rw [if_pos (hmasks.2 (by omega)), hsource, hd]
        rfl
  · rw [if_neg (mt hrgb.1 hs)]
    by_cases hok : (scheme data = 3 ∨ scheme data = 6) ∧ (depth data = 16 ∨ depth data = 32)
    · have hsource : source data = .masks (masks data) := by
        rw [source, if_neg (by omega), if_neg (by omega)]
      rw [if_pos ⟨hstores.2 hok.1, hmasks.2 hok.2⟩, require_bind (Or.inr hok), sourceChecks,
        if_pos hs, infoHeader_takeMasks hs hmem hle, map_bind, map_verdict_cons]
      refine require_bind_congr Iff.rfl fun _ => ?_
      rw [verdict_maskChecks, hsource, hd]
      rfl
    · rw [if_neg fun h => hok ⟨hstores.1 h.1, hmasks.1 h.2⟩,
        require_bind_of_not (not_or.2 ⟨hs, hok⟩), hd]
      rfl

/-! ### The pixel array -/

lemma infoHeader_columns : (InfoHeader.ofBytes (slice data 14 40)).columns = columns data := by
  rw [infoHeader_slice data le_rfl]
  rfl

lemma infoHeader_rows : (InfoHeader.ofBytes (slice data 14 40)).rows = rows data := by
  rw [infoHeader_slice data le_rfl]
  rfl

lemma depth_stride (h : depth data ∈ [1, 4, 8, 16, 24, 32]) :
    (pixelDepth data).stride (columns data) = stride data := by
  rw [Depth.stride, bits_pixelDepth h, stride, Nat.ceilDiv_eq_add_pred_div, Nat.mul_comm]
  rfl

/-- The last stage: the pixel array. -/
lemma pixelArray_eq :
    pixelArray data (pixelOffset data) (headersEnd data) (pixelBytes data) =
      (verdict (pixelChecks data)).map fun _ =>
        slice data (pixelOffset data) (pixelBytes data) := by
  rw [pixelArray, pixelChecks]
  rw [map_verdict_cons, map_verdict_cons]
  rfl

/-! ### The whole file -/

lemma headerSize_of_infoHeaderChecks (h : ∀ c ∈ infoHeaderChecks data, c.condition) :
    headerSize data ∈ [40, 52, 56, 108, 124] ∧ 14 + headerSize data ≤ data.length := by
  simp only [infoHeaderChecks, List.forall_mem_cons] at h
  exact ⟨h.2.2.1, h.2.2.2.1⟩

lemma depth_of_pictureChecks (h : ∀ c ∈ pictureChecks data, c.condition) :
    depth data ∈ [1, 4, 8, 16, 24, 32] := by
  simp only [pictureChecks, List.forall_mem_cons] at h
  exact h.2.2.2.1

end Bmp.Format

/-- Apart from its notices, reading is the file header and what follows it. -/
lemma Bmp.Image.value_read_eq_bind (data : Bytes) :
    (Image.read data).value = FileHeader.read data >>= Image.ofFileHeader data := by
  rw [Image.read]
  cases FileHeader.read data with
  | error e => rfl
  | ok header =>
    dsimp only
    rw [ok_bind]
    cases Image.ofFileHeader data header <;> rfl

/-- Reading a bitmap file is going through the checks. -/
theorem Bmp.Image.value_read (data : Bytes) :
    (Image.read data).value = (verdict (checks data)).map fun _ => image data := by
  have hoffset : (FileHeader.ofBytes (slice data 0 14)).pixelOffset.toNat = pixelOffset data := by
    rw [fileHeader_slice]
    rfl
  rw [Image.value_read_eq_bind, fileHeader_read, map_bind, checks, map_verdict_append]
  refine verdict_bind_congr fun _ => ?_
  rw [Image.ofFileHeader, infoHeader_take, map_bind, map_verdict_append]
  refine verdict_bind_congr fun hinfo => ?_
  obtain ⟨hmem, hle⟩ := headerSize_of_infoHeaderChecks hinfo
  dsimp only
  rw [infoHeader_depth, map_bind, map_verdict_append]
  refine verdict_bind_congr fun hpicture => ?_
  have hdepth := depth_of_pictureChecks hpicture
  rw [infoHeader_takeColors hmem hle hdepth, map_bind, map_verdict_append]
  refine verdict_bind_congr fun _ => ?_
  dsimp only
  rw [infoHeader_columns, infoHeader_rows, depth_stride hdepth, hoffset, ← pixelBytes,
    pixelArray_eq, map_bind]
  cases verdict (pixelChecks data) <;> rfl

end Raster
