import Raster.Bmp.Image
import Raster.Bytes.Cursor
import Raster.Notice
import Raster.Require

/-!
# Reading bitmap files

`Image.read` turns the bytes of a file into an `Image`.  It goes through the file from its start
and checks each part before it uses it, in this order:

* the file header: signature, presence, declared file size (`FileHeader.read`);
* the info header: its size, its presence (`InfoHeader.take`), the values that describe the picture
  (`InfoHeader.depth`);
* the source of the colors: masks or color table, as compression and depth ask for
  (`InfoHeader.takeColors`);
* the pixel array: it starts after all that and ends within the data (`pixelArray`).

The first check that fails gives the error.  Warnings about the file header are given as soon as
it has been read, even if a later check fails; a warning about the declared size of the pixel
array and the summary of the image are given at the end.
-/

namespace Raster.Bmp

open LittleEndian

/-! ## The file header -/

/-- The file header of some data: the signature comes first, then a whole record, and the declared
size must not exceed what is present. -/
def FileHeader.read (data : Bytes) : Except Error FileHeader := do
  require (2 ≤ data.length → u16At data 0 = signature) (.missingSignature (data.take 2))
  let (record, _) ← (Cursor.start data).take size
  let header := ofBytes record
  require (header.fileSize.toNat ≤ data.length)
    (.missingBytes header.fileSize.toNat data.length)
  return header

/-- The warnings about a file header over data of some length. -/
def FileHeader.notices (h : FileHeader) (length : Nat) : List Notice :=
  (if h.fileSize ≠ 0 ∧ h.fileSize.toNat < length then
    [.trailingBytes (length - h.fileSize.toNat) h.fileSize.toNat] else [])
  ++ (if h.reserved1 ≠ 0 ∨ h.reserved2 ≠ 0 then
    [.reservedFields h.reserved1 h.reserved2] else [])

/-! ## The info header -/

/-- The sizes that an info header can have. -/
def InfoHeader.sizes : List UInt32 := [40, 52, 56, 108, 124]

/-- The size of the oldest kind of info header, which is laid out in another way. -/
def InfoHeader.coreSize : UInt32 := 12

/-- The info header at the cursor, with the bytes that follow its first 40. -/
def InfoHeader.take (c : Cursor) : Except Error (InfoHeader × Bytes × Cursor) := do
  let size ← c.peekUInt32
  require (size ≠ coreSize) .coreHeader
  require (size ∈ sizes) (.invalidHeaderSize size.toNat)
  let (record, c) ← c.take size.toNat
  return (.ofBytes record, record.drop InfoHeader.size, c)

/-- The depth of the picture that a header describes, once its dimensions and its number of planes
have been found valid. -/
def InfoHeader.depth (h : InfoHeader) : Except Error Depth := do
  require (0 < h.width) (.invalidWidth h.width.toInt)
  require (h.height ≠ 0) (.invalidHeight h.height.toInt)
  require (h.planes = 1) (.invalidPlanes h.planes.toNat)
  match Depth.ofBits? h.bitsPerPixel.toNat with
  | some d => return d
  | none => throw (.unsupportedDepth h.bitsPerPixel.toNat)

/-! ## The source of the colors -/

/-- Four masks at the cursor, or three if there is no mask for the alpha channel. -/
def ChannelMasks.take (withAlpha : Bool) (c : Cursor) : Except Error (ChannelMasks × Cursor) := do
  let (red, c) ← c.takeUInt32
  let (green, c) ← c.takeUInt32
  let (blue, c) ← c.takeUInt32
  if withAlpha then
    let (alpha, c) ← c.takeUInt32
    return (⟨red, green, blue, alpha⟩, c)
  else
    return (⟨red, green, blue, 0⟩, c)

/-- The masks of an image: headers of 52 and more bytes hold them after their first 40 bytes, with
a mask for the alpha channel from 56 bytes on; a header of 40 bytes is followed by them, with a
mask for the alpha channel if the compression scheme says so. -/
def InfoHeader.takeMasks (h : InfoHeader) (extension : Bytes) (c : Cursor) :
    Except Error (ChannelMasks × Cursor) := do
  if 52 ≤ h.headerSize then
    let (masks, _) ← ChannelMasks.take (56 ≤ h.headerSize) (Cursor.start extension)
    return (masks, c)
  else ChannelMasks.take (h.compression = .alphaBitfields) c

/-- The number of entries of the color table. -/
def InfoHeader.tableSize (h : InfoHeader) (d : Depth) : Except Error Nat :=
  if h.colorsUsed = 0 then .ok d.colors
  else if h.colorsUsed.toNat ≤ d.colors then .ok h.colorsUsed.toNat
  else .error (.tooManyColors h.colorsUsed.toNat d.colors d.bits)

/-- The color table of an image. -/
def InfoHeader.takeTable (h : InfoHeader) (d : Depth) (c : Cursor) :
    Except Error (ColorTable × Cursor) := do
  let count ← h.tableSize d
  c.takeRecords TableEntry.ofBytes 4 count

/-- Pixels of this depth can have their channels located by masks. -/
def Depth.hasMasks (d : Depth) : Bool := d = .sixteen || d = .thirtyTwo

/-- The compression scheme announces masks. -/
def Compression.storesMasks (s : Compression) : Bool := s = .bitfields || s = .alphaBitfields

/-- The source of the colors of an image, and the end of the headers. -/
def InfoHeader.takeColors (h : InfoHeader) (d : Depth) (extension : Bytes) (c : Cursor) :
    Except Error (ColorSource × Cursor) := do
  if h.compression = .rgb then
    if d.isIndexed then
      let (entries, c) ← h.takeTable d c
      return (.table entries, c)
    else if d.hasMasks then return (.masks (.standard d.bits), c)
    else return (.direct, c)
  else if h.compression.storesMasks ∧ d.hasMasks then
    let (masks, c) ← h.takeMasks extension c
    match masks.fault? d.bits with
    | some (channel, fault) => throw (.invalidMask channel (masks.get channel) d.bits fault)
    | none => return (.masks masks, c)
  else throw (.unsupportedCompression h.compression d.bits)

/-! ## The pixel array -/

/-- The `length` bytes of the pixel array, which must start after the headers. -/
def pixelArray (data : Bytes) (offset headersEnd length : Nat) : Except Error Bytes := do
  require (headersEnd ≤ offset) (.overlappingHeaders offset headersEnd)
  require (offset + length ≤ data.length) (.missingPixels length offset data.length)
  return (data.drop offset).take length

/-! ## The whole file -/

namespace Image

/-- The image after a file header. -/
def ofFileHeader (data : Bytes) (header : FileHeader) : Except Error Image := do
  let (info, extension, c) ← InfoHeader.take ⟨data, FileHeader.size⟩
  let depth ← info.depth
  let (source, c) ← info.takeColors depth extension c
  let pixelData ← pixelArray data header.pixelOffset.toNat c.position
    (depth.stride info.columns * info.rows)
  return ⟨header, info, depth, source, pixelData⟩

/-- The notices about an image: a warning if the declared size of its pixel array is wrong, and a
summary. -/
def notices (i : Image) : List Notice :=
  let declared := i.infoHeader.imageSize.toNat
  let actual := i.stride * i.height
  (if declared ≠ 0 ∧ declared ≠ actual then [.imageSize declared actual] else [])
  ++ [.geometry i.infoHeader.width.toInt i.infoHeader.height.toInt i.depth.bits
      i.infoHeader.compression i.colorTable.length i.stride]

/-- The image that a file holds. -/
def read (data : Bytes) : Logged (Except Error Image) :=
  match FileHeader.read data with
  | .error e => ⟨.error e, []⟩
  | .ok header =>
    match ofFileHeader data header with
    | .error e => ⟨.error e, header.notices data.length⟩
    | .ok image => ⟨.ok image, header.notices data.length ++ image.notices⟩

end Image

end Raster.Bmp
