import Raster.Proofs.Reading
import Raster.Proofs.Records
import Mathlib

/-!
# The fields of the headers

An info header is a view of 40 bytes: each of its eleven fields is the little-endian value of bytes
at a place of its own, and together these places are the whole record.  `Field` is the table of the
places; it is given apart from the functions that read and write records, so that a field that is
read and written at the same wrong place would not go unnoticed.

A header is made in two ways, which are compared with its bytes here.  Changes to its optional
fields leave every field with the value that was last given to it (`get_changes`), and leave alone
the bytes of all other fields (`getElem?_changes`).  A new header that is given all the values that
a record holds has the bytes of the record, in whichever order the values are given
(`changes_of_perm`).
-/

namespace Raster.Bmp

open LittleEndian Format

namespace InfoHeader

/-! ## The table of the fields -/

/-- A field of the record. -/
inductive Field where
  | headerSize
  | width
  | height
  | planes
  | bitsPerPixel
  | compression
  | imageSize
  | xPixelsPerMeter
  | yPixelsPerMeter
  | colorsUsed
  | colorsImportant
deriving DecidableEq

namespace Field

/-- Where the field starts in the record. -/
def offset : Field → Nat
  | headerSize => 0
  | width => 4
  | height => 8
  | planes => 12
  | bitsPerPixel => 14
  | compression => 16
  | imageSize => 20
  | xPixelsPerMeter => 24
  | yPixelsPerMeter => 28
  | colorsUsed => 32
  | colorsImportant => 36

/-- The number of bytes of the field. -/
def size : Field → Nat
  | planes | bitsPerPixel => 2
  | _ => 4

/-- The bytes of the field. -/
def bytes (f : Field) (record : Bytes) : Bytes := slice record f.offset f.size

/-- The field has a sign. -/
def IsSigned (f : Field) : Prop := f = width ∨ f = height

instance (f : Field) : Decidable f.IsSigned := inferInstanceAs (Decidable (_ ∨ _))

/-- The value of the field in a record. -/
def read (f : Field) (record : Bytes) : ℤ :=
  if f.IsSigned then Int.bmod (decode (f.bytes record)) (2 ^ 32) else decode (f.bytes record)

/-- The fields, in the order in which they are stored. -/
def all : List Field :=
  [headerSize, width, height, planes, bitsPerPixel, compression, imageSize, xPixelsPerMeter,
    yPixelsPerMeter, colorsUsed, colorsImportant]

/-- Every byte of a record is one of a field. -/
lemma exists_of_lt {k : Nat} (h : k < 40) : ∃ f : Field, f.offset ≤ k ∧ k < f.offset + f.size := by
  have hall : ∀ k < 40, ∃ f ∈ all, f.offset ≤ k ∧ k < f.offset + f.size := by decide
  obtain ⟨f, -, hf⟩ := hall k h
  exact ⟨f, hf⟩

lemma offset_add_size_le (f : Field) : f.offset + f.size ≤ 40 := by
  cases f <;> decide

end Field

/-- The value of a field of a header. -/
def get (h : InfoHeader) : Field → ℤ
  | .headerSize => h.headerSize.toNat
  | .width => h.width.toInt
  | .height => h.height.toInt
  | .planes => h.planes.toNat
  | .bitsPerPixel => h.bitsPerPixel.toNat
  | .compression => h.compression.code.toNat
  | .imageSize => h.imageSize.toNat
  | .xPixelsPerMeter => h.xPixelsPerMeter.toNat
  | .yPixelsPerMeter => h.yPixelsPerMeter.toNat
  | .colorsUsed => h.colorsUsed.toNat
  | .colorsImportant => h.colorsImportant.toNat

/-- The bytes that a field of a header is stored as. -/
def stored (h : InfoHeader) : Field → Bytes
  | .headerSize => ofUInt32 h.headerSize
  | .width => ofUInt32 h.width.toUInt32
  | .height => ofUInt32 h.height.toUInt32
  | .planes => ofUInt16 h.planes
  | .bitsPerPixel => ofUInt16 h.bitsPerPixel
  | .compression => ofUInt32 h.compression.code
  | .imageSize => ofUInt32 h.imageSize
  | .xPixelsPerMeter => ofUInt32 h.xPixelsPerMeter
  | .yPixelsPerMeter => ofUInt32 h.yPixelsPerMeter
  | .colorsUsed => ofUInt32 h.colorsUsed
  | .colorsImportant => ofUInt32 h.colorsImportant

/-- The stored bytes of a field are those at its place in the record. -/
lemma bytes_toBytes (h : InfoHeader) (f : Field) : f.bytes h.toBytes = h.stored f := by
  have hlength : h.toBytes.length = 40 := h.length_toBytes
  have hback := h.ofBytes_toBytes
  -- the header is what its own record is read as
  generalize h.toBytes = record at hlength hback
  subst hback
  have hend : f.offset + f.size ≤ record.length := hlength ▸ f.offset_add_size_le
  cases f with
  | planes | bitsPerPixel => exact (ofUInt16_u16At hend).symm
  | width | height =>
    simp only [stored, ofBytes, UInt32.toUInt32_toInt32]
    exact (ofUInt32_u32At hend).symm
  | _ => exact (ofUInt32_u32At hend).symm

lemma toInt_of_stored (v : Int32) :
    v.toInt = Int.bmod (decode (ofUInt32 v.toUInt32)) (2 ^ 32) := by
  rw [decode_ofUInt32]
  exact BitVec.toInt_eq_toNat_bmod _

/-- A field is read from its place. -/
lemma get_eq_read (h : InfoHeader) (f : Field) : h.get f = f.read h.toBytes := by
  rw [Field.read, bytes_toBytes]
  cases f with
  | planes | bitsPerPixel =>
    rw [if_neg (by decide)]
    exact congrArg Nat.cast (decode_ofUInt16 _).symm
  | width =>
    rw [if_pos (by decide)]
    exact toInt_of_stored h.width
  | height =>
    rw [if_pos (by decide)]
    exact toInt_of_stored h.height
  | _ =>
    rw [if_neg (by decide)]
    exact congrArg Nat.cast (decode_ofUInt32 _).symm

/-! ## Changes -/

/-- The value that a change gives to a field, if it sets it. -/
def Change.value? : Change → Field → Option UInt32
  | .headerSize size, .headerSize => some size
  | .imageSize size, .imageSize => some size
  | .density x _, .xPixelsPerMeter => some x
  | .density _ y, .yPixelsPerMeter => some y
  | .colors used _, .colorsUsed => some used
  | .colors _ important, .colorsImportant => some important
  | _, _ => none

/-- The value that is last given to a field, if any change sets it. -/
def lastValue? (cs : List Change) (f : Field) : Option UInt32 :=
  cs.reverse.findSome? fun c => c.value? f

lemma lastValue?_cons (c : Change) (cs : List Change) (f : Field) :
    lastValue? (c :: cs) f = (lastValue? cs f).or (c.value? f) := by
  rw [lastValue?, List.reverse_cons, List.findSome?_append, List.findSome?_singleton]
  rfl

/-- What a change does to one field, a sequence of changes does with the last value for it. -/
lemma changes_of_change {β : Type} {f : Field} {g : InfoHeader → β} {u : UInt32 → β}
    (hstep : ∀ h c, g (change h c) = ((c.value? f).map u).getD (g h)) (cs : List Change)
    (h : InfoHeader) : g (h.changes cs) = ((lastValue? cs f).map u).getD (g h) := by
  induction cs generalizing h with
  | nil => rfl
  | cons c cs ih =>
    have hrest : g (h.changes (c :: cs)) = _ := ih (h.change c)
    rw [hrest, hstep, lastValue?_cons]
    cases lastValue? cs f <;> rfl

lemma get_changes (h : InfoHeader) (cs : List Change) (f : Field) :
    (h.changes cs).get f = ((lastValue? cs f).map fun v => (v.toNat : ℤ)).getD (h.get f) :=
  changes_of_change (g := fun h => h.get f) (fun h c => by cases c <;> cases f <;> rfl) cs h

lemma stored_changes (h : InfoHeader) (cs : List Change) (f : Field) :
    (h.changes cs).stored f = ((lastValue? cs f).map ofUInt32).getD (h.stored f) :=
  changes_of_change (g := fun h => h.stored f) (fun h c => by cases c <;> cases f <;> rfl) cs h

/-- A byte of the record, as one of a field. -/
lemma getElem?_toBytes (h : InfoHeader) {f : Field} {k : Nat} (hle : f.offset ≤ k)
    (hlt : k < f.offset + f.size) : h.toBytes[k]? = (h.stored f)[k - f.offset]? := by
  have hk : k - f.offset < f.size := by omega
  have hplace : f.offset + (k - f.offset) = k := by omega
  rw [← bytes_toBytes, Field.bytes, slice, List.getElem?_take_of_lt hk, List.getElem?_drop, hplace]

/-- A byte of which no change sets the field stays as it is. -/
lemma getElem?_changes (h : InfoHeader) {cs : List Change} {k : Nat}
    (hk : ∀ f : Field, f.offset ≤ k → k < f.offset + f.size → lastValue? cs f = none) :
    (h.changes cs).toBytes[k]? = h.toBytes[k]? := by
  by_cases hlt : k < 40
  · obtain ⟨f, hle, hlt⟩ := Field.exists_of_lt hlt
    rw [getElem?_toBytes _ hle hlt, getElem?_toBytes _ hle hlt, stored_changes, hk f hle hlt]
    rfl
  · rw [List.getElem?_eq_none (by simpa [size] using hlt),
      List.getElem?_eq_none (by simpa [size] using hlt)]

/-- The changes that give a header the optional fields of another one. -/
def optionalFields (h : InfoHeader) : List Change :=
  [.headerSize h.headerSize, .imageSize h.imageSize,
    .density h.xPixelsPerMeter h.yPixelsPerMeter, .colors h.colorsUsed h.colorsImportant]

/-- A new header with the values of another one, given in any order, is the other one if that has
one plane. -/
lemma changes_of_perm {h : InfoHeader} (hplanes : h.planes = 1) {cs : List Change}
    (hcs : cs.Perm h.optionalFields) :
    (new h.width h.height h.bitsPerPixel h.compression).changes cs = h := by
  -- the four changes set different fields, so they can be made in any order
  have hcomm : ∀ c ∈ h.optionalFields, ∀ d ∈ h.optionalFields, ∀ z : InfoHeader,
      (z.change c).change d = (z.change d).change c := by
    intro c hc d hd z
    simp only [optionalFields, List.mem_cons, List.not_mem_nil, or_false] at hc hd
    rcases hc with rfl | rfl | rfl | rfl <;> rcases hd with rfl | rfl | rfl | rfl <;> rfl
  have horder := hcs.symm.foldl_eq' hcomm (new h.width h.height h.bitsPerPixel h.compression)
  rw [changes, ← horder]
  obtain ⟨⟩ := h
  obtain rfl := hplanes
  rfl

/-- A record is what has become of another one by some changes. -/
structure Changed (cs : List Change) (before after : Bytes) : Prop where
  length_eq : after.length = 40
  /-- Each field has the last value that it was given, or the one from before. -/
  read_eq : ∀ f : Field,
    f.read after = ((lastValue? cs f).map fun v => (v.toNat : ℤ)).getD (f.read before)
  /-- The value takes the bytes of the field. -/
  bytes_eq : ∀ (f : Field) (v : UInt32), lastValue? cs f = some v → f.bytes after = ofUInt32 v
  /-- No byte changes but those of the fields that are set. -/
  kept : ∀ k, (∀ f : Field, f.offset ≤ k → k < f.offset + f.size → lastValue? cs f = none) →
    after[k]? = before[k]?

lemma changed (h : InfoHeader) (cs : List Change) :
    Changed cs h.toBytes (h.changes cs).toBytes where
  length_eq := length_toBytes _
  read_eq f := by rw [← get_eq_read, ← get_eq_read, get_changes]
  bytes_eq f v hv := by
    rw [bytes_toBytes, stored_changes, hv]
    rfl
  kept _ hk := h.getElem?_changes hk

end InfoHeader

/-! ## The file header -/

namespace FileHeader

/-- A record with the signature and empty reserved fields is that of a new header. -/
lemma new_of_signature {record : Bytes} (hlength : record.length = 14)
    (htag : record.take 2 = [0x42, 0x4d]) (h1 : u16At record 6 = 0) (h2 : u16At record 8 = 0) :
    (new (u32At record 2) (u32At record 10)).toBytes = record := by
  have hsignature := (u16At_eq_signature_iff (by omega)).2 htag
  have hheader : ofBytes record = new (u32At record 2) (u32At record 10) := by
    rw [ofBytes, hsignature, h1, h2]
    rfl
  rw [← hheader, fileHeader_toBytes_ofBytes hlength]

end FileHeader

namespace InfoHeader

/-- **Headers are views of their records.**  Every field of an info header is read from its place.
A record with one plane is that of a new header with its width, height, depth and compression,
changed by its other values in any order.  Any changes of any record leave each field with the value
that was last given to it, and all other bytes as they are.  A file header with the signature and
empty reserved fields is a new one with its two values. -/
theorem records_viewed :
    (∀ record : Bytes, record.length = 40 →
      (∀ f, (ofBytes record).get f = f.read record) ∧
      (Field.planes.read record = 1 → ∀ cs : List Change,
        cs.Perm (ofBytes record).optionalFields →
        ((new (ofBytes record).width (ofBytes record).height (ofBytes record).bitsPerPixel
          (ofBytes record).compression).changes cs).toBytes = record) ∧
      ∀ cs, Changed cs record ((ofBytes record).changes cs).toBytes) ∧
    ∀ record : Bytes, record.length = 14 → record.take 2 = [0x42, 0x4d] →
      u16At record 6 = 0 → u16At record 8 = 0 →
      (FileHeader.new (FileHeader.ofBytes record).fileSize
        (FileHeader.ofBytes record).pixelOffset).toBytes = record := by
  refine ⟨fun record hlength => ?_, fun record => FileHeader.new_of_signature⟩
  have hback := infoHeader_toBytes_ofBytes hlength
  refine ⟨fun f => ?_, fun hplanes cs hcs => ?_, fun cs => ?_⟩
  · rw [get_eq_read, hback]
  · have hone : (ofBytes record).planes = 1 := by
      rw [← hback, ← get_eq_read] at hplanes
      exact UInt16.toNat_inj.1 (Nat.cast_injective hplanes)
    rw [changes_of_perm hone hcs, hback]
  · have hchanged := (ofBytes record).changed cs
    rwa [hback] at hchanged

/-- A record in which no two bytes are the same but for those of the field for the planes. -/
def sampleRecord : Bytes :=
  (List.range 40).map fun k => if k = 12 then 1 else if k = 13 then 0 else .ofNat (200 + k)

/-- The height of the sample is negative; of two values for the same field the last one counts. -/
theorem records_viewed_sample :
    ((new (ofBytes sampleRecord).width (ofBytes sampleRecord).height
        (ofBytes sampleRecord).bitsPerPixel (ofBytes sampleRecord).compression).changes
      (ofBytes sampleRecord).optionalFields.reverse).toBytes = sampleRecord ∧
    (ofBytes sampleRecord).get .height < 0 ∧
    Field.colorsUsed.read ((ofBytes sampleRecord).changes [.colors 1 2, .colors 3 4]).toBytes = 3 ∧
    (FileHeader.new 7 9).toBytes = [0x42, 0x4d, 7, 0, 0, 0, 0, 0, 0, 0, 9, 0, 0, 0] := by
  obtain ⟨hinfo, hfile⟩ := records_viewed
  obtain ⟨hget, hnew, hchanged⟩ := hinfo sampleRecord rfl
  refine ⟨hnew (by decide) _ (List.reverse_perm _), ?_, ?_, ?_⟩
  · rw [hget]
    decide
  · rw [(hchanged [.colors 1 2, .colors 3 4]).read_eq]
    rfl
  · exact hfile [0x42, 0x4d, 7, 0, 0, 0, 0, 0, 0, 0, 9, 0, 0, 0] rfl rfl rfl rfl

end InfoHeader

end Raster.Bmp
