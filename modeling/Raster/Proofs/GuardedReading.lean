import Raster.Proofs.Machine
import Raster.Proofs.Reading
import Mathlib

/-!
# Reading on a machine

The reader of bitmap files, with every operation as a machine has it: positions and sizes are words
of 64 bits, slices and shifts are guarded, and records that are taken for headers must have their
size.  `parse` agrees with the reader on data of fewer than `2 ^ 63` bytes (`parse_eq_refuse`), so
it does not trap there.

What keeps the operations of a cursor from trapping is that it stays within its data, `Within`.  The
sizes of the pixel array stay within 64 bits because width and height have 32 bits with a sign and
the width is positive (`pixelBytes_lt`); a width of `2 ^ 31` would be too much.
-/

namespace Raster.Machine

open LittleEndian Bmp

/-! ## Reads of a cursor -/

def peekUInt32 (c : Cursor) : Except Stop UInt32 := do
  let rest ← dropFirst c.data c.position
  refuse (require (4 ≤ rest.length) .endOfData)
  let first ← byteAt rest 0
  let second ← byteAt rest 1
  let third ← byteAt rest 2
  let fourth ← byteAt rest 3
  return .ofNat (decode [first, second, third, fourth])

def takeUInt32 (c : Cursor) : Except Stop (UInt32 × Cursor) := do
  let word ← peekUInt32 c
  let position ← add 64 c.position 4
  return (word, ⟨c.data, position⟩)

def take (count : Nat) (c : Cursor) : Except Stop (Bytes × Cursor) := do
  let rest ← dropFirst c.data c.position
  refuse (require (count ≤ rest.length) .endOfData)
  let bytes ← takeFirst rest count
  let position ← add 64 c.position count
  return (bytes, ⟨c.data, position⟩)

/-- A record of a header, which must have its size. -/
def takeRecord (size : Nat) (c : Cursor) : Except Stop (Bytes × Cursor) := do
  let (bytes, c) ← take size c
  let record ← guarded (bytes.length = size) .assertion bytes
  return (record, c)

/-- A cursor that has not left its data. -/
structure Within (c : Cursor) : Prop where
  position_le : c.position ≤ c.data.length
  length_lt : c.data.length < 2 ^ 63

variable {c c' : Cursor}

lemma within_start {data : Bytes} (h : data.length < 2 ^ 63) : Within (Cursor.start data) :=
  ⟨Nat.zero_le _, h⟩

lemma within_take (h : Within c) {count : Nat} {bytes : Bytes}
    (htake : c.take count = .ok (bytes, c')) : Within c' := by
  refine ⟨Cursor.position_le_of_take h.position_le htake, ?_⟩
  obtain ⟨-, -, rfl⟩ := Cursor.take_eq_ok_iff.1 htake
  exact h.length_lt

lemma takeUInt32_eq_ok {word : UInt32} (htake : c.takeUInt32 = .ok (word, c')) :
    c.position + 4 ≤ c.data.length ∧ c' = ⟨c.data, c.position + 4⟩ := by
  rw [Cursor.takeUInt32_eq, map_eq_ok_iff] at htake
  obtain ⟨u, hu, hpair⟩ := htake
  exact ⟨require_eq_ok_iff.1 hu, (Prod.ext_iff.1 hpair).2.symm⟩

lemma within_takeUInt32 (h : Within c) {word : UInt32} (htake : c.takeUInt32 = .ok (word, c')) :
    Within c' := by
  obtain ⟨hle, rfl⟩ := takeUInt32_eq_ok htake
  exact ⟨hle, h.length_lt⟩

lemma dropFirst_eq (h : Within c) : dropFirst c.data c.position = .ok c.remaining :=
  guarded_of h.position_le

lemma peekUInt32_eq_refuse (h : Within c) : peekUInt32 c = refuse c.peekUInt32 := by
  rw [peekUInt32, dropFirst_eq h, ok_bind, Cursor.peekUInt32_eq_bind]
  refine refuse_bind_congr rfl fun _ hlength => ?_
  have hle := require_eq_ok_iff.1 hlength
  obtain ⟨first, second, third, fourth, hbytes⟩ :=
    List.length_eq_four.1 (List.length_take_of_le hle)
  have hrest : c.remaining = [first, second, third, fourth] ++ c.remaining.drop 4 := by
    rw [← hbytes, List.take_append_drop]
  rw [hrest, byteAt_eq (b := first) rfl, byteAt_eq (b := second) rfl, byteAt_eq (b := third) rfl,
    byteAt_eq (b := fourth) rfl]
  rfl

/-- After a read that found its bytes the position fits into a word. -/
lemma add_position (h : Within c) {count : Nat} (hcount : count ≤ c.remaining.length) :
    add 64 c.position count = .ok (c.position + count) := by
  have hle := h.position_le
  have hlt := h.length_lt
  rw [Cursor.remaining, List.length_drop] at hcount
  exact guarded_of (by omega)

lemma takeUInt32_eq_refuse (h : Within c) : takeUInt32 c = refuse c.takeUInt32 := by
  refine refuse_bind_congr (peekUInt32_eq_refuse h) fun word hword => ?_
  rw [Cursor.peekUInt32_eq_bind, bind_eq_ok_iff] at hword
  obtain ⟨u, hu, -⟩ := hword
  rw [add_position h (require_eq_ok_iff.1 hu)]
  rfl

lemma take_eq_refuse (h : Within c) (count : Nat) : take count c = refuse (c.take count) := by
  rw [take, dropFirst_eq h, ok_bind, Cursor.take_eq_bind]
  refine refuse_bind_congr rfl fun _ hlength => ?_
  have hle := require_eq_ok_iff.1 hlength
  rw [takeFirst, guarded_of hle, ok_bind, add_position h hle]
  rfl

/-- A read gives as many bytes as it was asked for. -/
lemma length_of_take {count : Nat} {bytes : Bytes} (htake : c.take count = .ok (bytes, c')) :
    bytes.length = count := by
  obtain ⟨hcount, rfl, -⟩ := Cursor.take_eq_ok_iff.1 htake
  exact List.length_take_of_le hcount

lemma takeRecord_eq_refuse (h : Within c) (size : Nat) :
    takeRecord size c = refuse (c.take size) := by
  have hpair : c.take size = c.take size >>= fun record => .ok record := (bind_pure _).symm
  rw [hpair]
  refine refuse_bind_congr (take_eq_refuse h size) ?_
  rintro ⟨bytes, c'⟩ htake
  dsimp only
  rw [guarded_of (length_of_take htake)]
  rfl

/-! ## The headers -/

def fileHeader (data : Bytes) : Except Stop FileHeader := do
  refuse (require (2 ≤ data.length → u16At data 0 = FileHeader.signature)
    (.missingSignature (data.take 2)))
  let (record, _) ← takeRecord FileHeader.size (Cursor.start data)
  let header := FileHeader.ofBytes record
  refuse (require (header.fileSize.toNat ≤ data.length)
    (.missingBytes header.fileSize.toNat data.length))
  -- a warning says how many bytes follow the declared ones
  let _ ← if header.fileSize ≠ 0 ∧ header.fileSize.toNat < data.length then
    sub data.length header.fileSize.toNat else .ok 0
  return header

/-- The info header at the cursor: its first 40 bytes are a record, the others its extension. -/
def infoHeader (c : Cursor) : Except Stop (InfoHeader × Bytes × Cursor) := do
  let size ← peekUInt32 c
  refuse (require (size ≠ InfoHeader.coreSize) .coreHeader)
  refuse (require (size ∈ InfoHeader.sizes) (.invalidHeaderSize size.toNat))
  let (bytes, c) ← take size.toNat c
  let extension ← dropFirst bytes InfoHeader.size
  let first ← takeFirst bytes InfoHeader.size
  let record ← guarded (first.length = InfoHeader.size) .assertion first
  return (.ofBytes record, extension, c)

lemma fileHeader_eq_refuse {data : Bytes} (h : data.length < 2 ^ 63) :
    fileHeader data = refuse (FileHeader.read data) := by
  refine refuse_bind_congr rfl fun _ _ => ?_
  refine refuse_bind_congr (takeRecord_eq_refuse (within_start h) _) ?_
  rintro ⟨record, _⟩ -
  refine refuse_bind_congr rfl fun _ hsize => ?_
  have hle := require_eq_ok_iff.1 hsize
  dsimp only
  split
  · rw [sub, guarded_of hle]
    rfl
  · rfl

/-- Only the first 40 bytes of an info header are its record. -/
lemma infoHeader_ofBytes_take (bytes : Bytes) :
    InfoHeader.ofBytes (bytes.take InfoHeader.size) = InfoHeader.ofBytes bytes := by
  have hslice : bytes.take InfoHeader.size = Format.slice bytes 0 40 := rfl
  simp [hslice, InfoHeader.ofBytes, Format.u16At_slice, Format.u32At_slice]

lemma infoHeader_eq_refuse (h : Within c) : infoHeader c = refuse (InfoHeader.take c) := by
  refine refuse_bind_congr (peekUInt32_eq_refuse h) fun size _ => ?_
  refine refuse_bind_congr rfl fun _ _ => ?_
  refine refuse_bind_congr rfl fun _ hmem => ?_
  refine refuse_bind_congr (take_eq_refuse h _) ?_
  rintro ⟨bytes, c'⟩ htake
  have hlong : InfoHeader.size ≤ bytes.length := by
    rw [length_of_take htake]
    exact Format.le_of_mem_sizes (Format.mem_sizes_iff.1 (require_eq_ok_iff.1 hmem))
  dsimp only
  rw [dropFirst, guarded_of hlong, ok_bind, takeFirst, guarded_of hlong, ok_bind,
    guarded_of (List.length_take_of_le hlong), ok_bind, infoHeader_ofBytes_take]
  rfl

/-! ## The source of the colors -/

def takeMasks (withAlpha : Bool) (c : Cursor) : Except Stop (ChannelMasks × Cursor) := do
  let (red, c) ← takeUInt32 c
  let (green, c) ← takeUInt32 c
  let (blue, c) ← takeUInt32 c
  if withAlpha then
    let (alpha, c) ← takeUInt32 c
    return (⟨red, green, blue, alpha⟩, c)
  else
    return (⟨red, green, blue, 0⟩, c)

/-- The masks of an image, in the extension of its header or at the cursor. -/
def masksOf (info : InfoHeader) (extension : Bytes) (c : Cursor) :
    Except Stop (ChannelMasks × Cursor) :=
  if 52 ≤ info.headerSize then do
    let (masks, _) ← takeMasks (56 ≤ info.headerSize) (Cursor.start extension)
    return (masks, c)
  else takeMasks (info.compression = .alphaBitfields) c

/-- The bits of a mask beyond those of a pixel are shifted down, which a pixel that is as wide as
the mask does not allow. -/
def checkWidth (masks : ChannelMasks) (bits : Nat) (channel : Channel) : Except Stop Unit :=
  if bits < 32 then do
    let high ← shiftRight 32 (masks.get channel).toNat bits
    refuse (require (high = 0) (.invalidMask channel (masks.get channel) bits .tooWide))
  else .ok ()

/-- The check that a mask is one run has a shift that may be too wide and a sum that may wrap, so it
does not trap. -/
def checkMask (masks : ChannelMasks) (bits : Nat) (channel : Channel) : Except Stop Unit := do
  checkWidth masks bits channel
  refuse (require (masks.get channel).IsRun
    (.invalidMask channel (masks.get channel) bits .broken))

def validated (masks : ChannelMasks) (bits : Nat) : Except Stop ChannelMasks := do
  Channel.all.forM (checkMask masks bits)
  return masks

/-- The number of entries of the color table is compared with a power of two. -/
def tableSize (info : InfoHeader) (d : Depth) : Except Stop Nat := do
  let most ← shiftLeft 32 1 d.bits
  if info.colorsUsed = 0 then return most
  else if info.colorsUsed.toNat ≤ most then return info.colorsUsed.toNat
  else throw (.refused (.tooManyColors info.colorsUsed.toNat most d.bits))

/-- A product of counts that does not fit into a word is taken for missing data; the bytes of the
entries must be a multiple of their size. -/
def takeTable (info : InfoHeader) (d : Depth) (c : Cursor) :
    Except Stop (ColorTable × Cursor) := do
  let count ← tableSize info d
  refuse (require (count * 4 < 2 ^ 64) .endOfData)
  let (bytes, c) ← take (count * 4) c
  let entries ← guarded (bytes.length % 4 = 0) .assertion bytes
  return ((pieces count 4 entries).map TableEntry.ofBytes, c)

def takeColors (info : InfoHeader) (d : Depth) (extension : Bytes) (c : Cursor) :
    Except Stop (ColorSource × Cursor) :=
  if info.compression = .rgb then
    if d.isIndexed then do
      let (entries, c) ← takeTable info d c
      return (.table entries, c)
    else if d.hasMasks then return (.masks (.standard d.bits), c)
    else return (.direct, c)
  else if info.compression.storesMasks ∧ d.hasMasks then do
    let (masks, c) ← masksOf info extension c
    let masks ← validated masks d.bits
    return (.masks masks, c)
  else throw (.refused (.unsupportedCompression info.compression d.bits))

lemma takeMasks_eq_refuse (h : Within c) (withAlpha : Bool) :
    takeMasks withAlpha c = refuse (ChannelMasks.take withAlpha c) := by
  refine refuse_bind_congr (takeUInt32_eq_refuse h) ?_
  rintro ⟨red, c₁⟩ hred
  have h₁ := within_takeUInt32 h hred
  refine refuse_bind_congr (takeUInt32_eq_refuse h₁) ?_
  rintro ⟨green, c₂⟩ hgreen
  have h₂ := within_takeUInt32 h₁ hgreen
  refine refuse_bind_congr (takeUInt32_eq_refuse h₂) ?_
  rintro ⟨blue, c₃⟩ hblue
  have h₃ := within_takeUInt32 h₂ hblue
  cases withAlpha with
  | true => exact refuse_bind_congr (takeUInt32_eq_refuse h₃) fun _ _ => rfl
  | false => rfl

lemma masksOf_eq_refuse (h : Within c) {extension : Bytes} (hext : extension.length < 2 ^ 63)
    (info : InfoHeader) : masksOf info extension c = refuse (info.takeMasks extension c) := by
  rw [masksOf, InfoHeader.takeMasks]
  split
  · exact refuse_bind_congr (takeMasks_eq_refuse (within_start hext) _) fun _ _ => rfl
  · exact takeMasks_eq_refuse h _

lemma checkWidth_eq_refuse (masks : ChannelMasks) (bits : Nat) (channel : Channel) :
    checkWidth masks bits channel = refuse (require ((masks.get channel).Fits bits)
      (.invalidMask channel (masks.get channel) bits .tooWide)) := by
  have hlt := (masks.get channel).toNat_lt
  rw [checkWidth]
  split
  · next hbits =>
    have hfits : (masks.get channel).toNat >>> bits = 0 ↔ (masks.get channel).Fits bits := by
      rw [Nat.shiftRight_eq_div_pow, Nat.div_eq_zero_iff_lt (by positivity), Mask.fits_iff]
    rw [shiftRight, guarded_of hbits, ok_bind, require, require]
    exact congrArg refuse (if_congr hfits rfl rfl)
  · next hbits =>
    have hfits : (masks.get channel).Fits bits := by
      rw [Mask.fits_iff]
      exact lt_of_lt_of_le hlt (Nat.pow_le_pow_right (by norm_num) (not_lt.1 hbits))
    rw [require, if_pos hfits]
    rfl

/-- The first mask that fails its checks is the first that has a fault. -/
lemma forM_checkMask (masks : ChannelMasks) (bits : Nat) (l : List Channel) :
    l.forM (checkMask masks bits) =
      refuse (match l.findSome? fun c => ((masks.get c).fault? bits).map (c, ·) with
        | some (c, fault) => .error (.invalidMask c (masks.get c) bits fault)
        | none => .ok ()) := by
  induction l with
  | nil => rfl
  | cons c l ih =>
    rw [List.forM, checkMask, checkWidth_eq_refuse, List.findSome?_cons, Mask.fault?]
    by_cases hfits : (masks.get c).Fits bits
    · by_cases hrun : (masks.get c).IsRun
      · rw [if_neg (not_not.2 hfits), if_neg (not_not.2 hrun), require, if_pos hfits, require,
          if_pos hrun]
        exact ih
      · rw [if_neg (not_not.2 hfits), if_pos hrun, require, if_pos hfits, require, if_neg hrun]
        rfl
    · rw [if_pos hfits, require, if_neg hfits]
      rfl

lemma validated_eq_refuse (masks : ChannelMasks) (bits : Nat) :
    validated masks bits = refuse (match masks.fault? bits with
      | some (c, fault) => .error (.invalidMask c (masks.get c) bits fault)
      | none => .ok masks) := by
  rw [validated, forM_checkMask, ChannelMasks.fault?]
  cases Channel.all.findSome? fun c => ((masks.get c).fault? bits).map (c, ·) <;> rfl

lemma tableSize_eq_refuse (info : InfoHeader) {d : Depth} (hd : d.bits ≤ 8) :
    tableSize info d = refuse (info.tableSize d) := by
  have hpow : (1 <<< d.bits) % 2 ^ 32 = d.colors := by
    rw [Nat.one_shiftLeft, Depth.colors_eq]
    exact Nat.mod_eq_of_lt (Nat.pow_lt_pow_right (by norm_num) (by omega))
  rw [tableSize, shiftLeft, guarded_of (by omega), ok_bind, hpow, InfoHeader.tableSize]
  split
  · rfl
  · split <;> rfl

lemma takeTable_eq_refuse (h : Within c) (info : InfoHeader) {d : Depth} (hd : d.bits ≤ 8) :
    takeTable info d c = refuse (info.takeTable d c) := by
  refine refuse_bind_congr (tableSize_eq_refuse info hd) fun count hcount => ?_
  -- at most 256 entries
  have hsmall : count * 4 < 2 ^ 64 := by
    have hpow : d.colors ≤ 2 ^ 8 := by
      rw [Depth.colors_eq]
      exact Nat.pow_le_pow_right (by norm_num) hd
    have hle : count ≤ d.colors := by
      rw [InfoHeader.tableSize] at hcount
      split at hcount
      · exact le_of_eq (Except.ok.inj hcount).symm
      · split at hcount
        · next hused => exact (Except.ok.inj hcount) ▸ hused
        · exact absurd hcount (by simp)
    omega
  rw [require, if_pos hsmall, refuse_ok, ok_bind]
  refine refuse_bind_congr (take_eq_refuse h _) ?_
  rintro ⟨bytes, c'⟩ htake
  have hlength := length_of_take htake
  dsimp only
  rw [guarded_of (by omega)]
  rfl

lemma takeColors_eq_refuse (h : Within c) {extension : Bytes} (hext : extension.length < 2 ^ 63)
    (info : InfoHeader) (d : Depth) :
    takeColors info d extension c = refuse (info.takeColors d extension c) := by
  rw [takeColors, InfoHeader.takeColors]
  split
  · split
    · next hindexed =>
      exact refuse_bind_congr (takeTable_eq_refuse h info (Depth.isIndexed_iff.1 hindexed))
        fun _ _ => rfl
    · split <;> rfl
  · split
    · refine refuse_bind_congr (masksOf_eq_refuse h hext info) ?_
      rintro ⟨masks, c'⟩ -
      dsimp only
      rw [validated_eq_refuse]
      cases masks.fault? d.bits <;> rfl
    · rfl

/-! ## The pixel array -/

/-- The sizes are computed in words of 64 bits. -/
def takePixels (data : Bytes) (offset headersEnd : Nat) (info : InfoHeader) (d : Depth) :
    Except Stop Bytes := do
  refuse (require (headersEnd ≤ offset) (.overlappingHeaders offset headersEnd))
  let bits ← mul 64 info.columns d.bits
  let padded ← add 64 bits 31
  let stride ← mul 64 (padded / 32) 4
  let length ← mul 64 stride info.rows
  let last ← add 64 offset length
  refuse (require (last ≤ data.length) (.missingPixels length offset data.length))
  let rest ← dropFirst data offset
  takeFirst rest length

lemma depth_eq_ok {info : InfoHeader} {d : Depth} (h : info.depth = .ok d) :
    0 < info.width ∧ info.height ≠ 0 ∧ d.bits = info.bitsPerPixel.toNat := by
  obtain ⟨_, hwidth, h⟩ := bind_eq_ok_iff.1 h
  obtain ⟨_, hheight, h⟩ := bind_eq_ok_iff.1 h
  obtain ⟨_, -, h⟩ := bind_eq_ok_iff.1 h
  refine ⟨require_eq_ok_iff.1 hwidth, require_eq_ok_iff.1 hheight, ?_⟩
  split at h
  · next d' hd =>
    obtain rfl := Except.ok.inj h
    exact Depth.bits_of_ofBits? hd
  · exact absurd h (by simp [throw, throwThe, MonadExceptOf.throw])

lemma natAbs_lt {v : Int32} (h : 0 < v) : v.toInt.natAbs < 2 ^ 31 := by
  have hlt := v.toInt_lt
  have hpos := Int32.lt_iff_toInt_lt.1 h
  rw [Int32.toInt_zero] at hpos
  omega

lemma natAbs_le (v : Int32) : v.toInt.natAbs ≤ 2 ^ 31 := by
  have hlt := v.toInt_lt
  have hle := v.le_toInt
  omega

lemma columns_lt {info : InfoHeader} (h : 0 < info.width) : info.columns < 2 ^ 31 := natAbs_lt h

lemma rows_le (info : InfoHeader) : info.rows ≤ 2 ^ 31 := natAbs_le info.height

lemma bits_le (d : Depth) : d.bits ≤ 32 := by
  cases d <;> decide

/-- A row has at most four bytes a pixel. -/
lemma stride_le (d : Depth) (width : Nat) : d.stride width ≤ 4 * width := by
  have hbits : width * d.bits ≤ width * 32 := Nat.mul_le_mul_left _ (bits_le d)
  rw [Depth.stride]
  omega

/-- The last byte of the pixel array has a position of 64 bits. -/
lemma pixelBytes_lt {offset width rows : Nat} (d : Depth) (hoffset : offset < 2 ^ 32)
    (hwidth : width < 2 ^ 31) (hrows : rows ≤ 2 ^ 31) :
    offset + d.stride width * rows < 2 ^ 64 := by
  have hstride := stride_le d width
  have hlength : d.stride width * rows ≤ (4 * (2 ^ 31 - 1)) * 2 ^ 31 :=
    Nat.mul_le_mul (by omega) hrows
  omega

lemma takePixels_eq_refuse {data : Bytes} {offset : Nat} (headersEnd : Nat) {info : InfoHeader}
    (d : Depth) (hoffset : offset < 2 ^ 32) (hwidth : 0 < info.width) :
    takePixels data offset headersEnd info d =
      refuse (pixelArray data offset headersEnd (d.stride info.columns * info.rows)) := by
  have hcolumns := columns_lt hwidth
  have hend := pixelBytes_lt d hoffset hcolumns (rows_le info)
  have hstride := stride_le d info.columns
  have hbits : info.columns * d.bits ≤ info.columns * 32 := Nat.mul_le_mul_left _ (bits_le d)
  refine refuse_bind_congr rfl fun _ _ => ?_
  rw [mul, guarded_of (by omega), ok_bind, add, guarded_of (by omega), ok_bind, mul,
    guarded_of (by omega), ok_bind, ← Depth.stride, mul, guarded_of (by omega), ok_bind, add,
    guarded_of hend, ok_bind]
  refine refuse_bind_congr rfl fun _ hpresent => ?_
  have hle := require_eq_ok_iff.1 hpresent
  have hrest : d.stride info.columns * info.rows ≤ (data.drop offset).length := by
    rw [List.length_drop]
    omega
  rw [dropFirst, guarded_of (by omega), ok_bind, takeFirst, guarded_of hrest]
  rfl

/-! ## The whole file -/

def parse (data : Bytes) : Except Stop Image := do
  let header ← fileHeader data
  let (info, extension, c) ← infoHeader ⟨data, FileHeader.size⟩
  let d ← refuse info.depth
  let (source, c) ← takeColors info d extension c
  let pixelData ← takePixels data header.pixelOffset.toNat c.position info d
  return ⟨header, info, d, source, pixelData⟩

lemma within_fileHeader {data : Bytes} (h : data.length < 2 ^ 63) {header : FileHeader}
    (hread : FileHeader.read data = .ok header) : Within ⟨data, FileHeader.size⟩ := by
  obtain ⟨_, -, hread⟩ := bind_eq_ok_iff.1 hread
  obtain ⟨⟨record, c⟩, htake, -⟩ := bind_eq_ok_iff.1 hread
  obtain ⟨hle, -, -⟩ := Cursor.take_eq_ok_iff.1 htake
  exact ⟨hle, h⟩

lemma within_infoHeader (h : Within c) {info : InfoHeader} {extension : Bytes}
    (hread : InfoHeader.take c = .ok (info, extension, c')) :
    Within c' ∧ extension.length < 2 ^ 63 := by
  obtain ⟨size, -, hread⟩ := bind_eq_ok_iff.1 hread
  obtain ⟨_, -, hread⟩ := bind_eq_ok_iff.1 hread
  obtain ⟨_, -, hread⟩ := bind_eq_ok_iff.1 hread
  obtain ⟨⟨bytes, c₁⟩, htake, hread⟩ := bind_eq_ok_iff.1 hread
  obtain ⟨-, rfl, rfl⟩ := Prod.ext_iff.1 (Except.ok.inj hread)
  have hlength := length_of_take htake
  obtain ⟨hcount, -, -⟩ := Cursor.take_eq_ok_iff.1 htake
  have hlt := h.length_lt
  refine ⟨within_take h htake, ?_⟩
  rw [Cursor.remaining, List.length_drop] at hcount
  rw [List.length_drop]
  omega

/-- Reading does not trap. -/
theorem parse_eq_refuse {data : Bytes} (h : data.length < 2 ^ 63) :
    parse data = refuse (Image.read data).value := by
  rw [Image.value_read_eq_bind]
  refine refuse_bind_congr (fileHeader_eq_refuse h) fun header hheader => ?_
  have hwithin := within_fileHeader h hheader
  refine refuse_bind_congr (infoHeader_eq_refuse hwithin) ?_
  rintro ⟨info, extension, c⟩ hinfo
  obtain ⟨hc, hext⟩ := within_infoHeader hwithin hinfo
  refine refuse_bind_congr rfl fun d hd => ?_
  obtain ⟨hwidth, -, -⟩ := depth_eq_ok hd
  refine refuse_bind_congr (takeColors_eq_refuse hc hext info d) ?_
  rintro ⟨source, c'⟩ -
  exact refuse_bind_congr (takePixels_eq_refuse _ d header.pixelOffset.toNat_lt hwidth)
    fun _ _ => rfl

end Raster.Machine
