import Raster.Proofs.Format
import Mathlib

/-!
# Records and their bytes

A header that is read from a record of its size has exactly the bytes of the record: no field is
lost, moved or changed.  The same holds of the entries of a color table.  So two records are the
same if they are read as the same header.
-/

namespace Raster.Bmp.Format

open LittleEndian

variable {data : Bytes}

/-- Two slices next to each other are one. -/
lemma slice_append {offset count offset' : Nat} (h : offset + count = offset') (count' : Nat) :
    slice data offset count ++ slice data offset' count' = slice data offset (count + count') := by
  subst h
  simp only [slice, ← List.drop_drop]
  rw [List.take_add]

/-- A stored word of two bytes is written as it was read. -/
lemma ofUInt16_u16At {offset : Nat} (h : offset + 2 ≤ data.length) :
    ofUInt16 (u16At data offset) = slice data offset 2 := by
  have hlt := decode_lt (slice data offset 2)
  have hback := encode_decode (slice data offset 2)
  rw [length_slice h] at hlt hback
  show encode 2 (UInt16.ofNat (decode (slice data offset 2))).toNat = _
  rw [UInt16.toNat_ofNat_of_lt' (lt_of_lt_of_eq hlt rfl), hback]

/-- A stored word of four bytes is written as it was read. -/
lemma ofUInt32_u32At {offset : Nat} (h : offset + 4 ≤ data.length) :
    ofUInt32 (u32At data offset) = slice data offset 4 := by
  have hlt := decode_lt (slice data offset 4)
  have hback := encode_decode (slice data offset 4)
  rw [length_slice h] at hlt hback
  show encode 4 (UInt32.ofNat (decode (slice data offset 4))).toNat = _
  rw [UInt32.toNat_ofNat_of_lt' (lt_of_lt_of_eq hlt rfl), hback]

/-- A byte of a stored word. -/
lemma ofNat_decode_div {bytes : Bytes} {k : Nat} {byte : UInt8} (h : bytes[k]? = some byte) :
    UInt8.ofNat (decode bytes / 256 ^ k) = byte := by
  induction bytes generalizing k with
  | nil => exact absurd h (by simp)
  | cons b rest ih =>
    have hb := b.toNat_lt
    rw [decode_cons]
    cases k with
    | zero =>
      obtain rfl := Option.some.inj h
      apply UInt8.toNat_inj.1
      rw [UInt8.toNat_ofNat']
      omega
    | succ k =>
      have hrest : (b.toNat + 256 * decode rest) / 256 = decode rest := by omega
      rw [Nat.pow_succ', ← Nat.div_div_eq_div_mul, hrest]
      exact ih h

/-- A file header has the bytes that it was read from. -/
lemma fileHeader_toBytes_ofBytes (h : data.length = 14) :
    (FileHeader.ofBytes data).toBytes = data := by
  simp only [FileHeader.toBytes, FileHeader.ofBytes]
  rw [ofUInt16_u16At (by omega), ofUInt32_u32At (by omega), ofUInt16_u16At (by omega),
    ofUInt16_u16At (by omega), ofUInt32_u32At (by omega), slice_append rfl, slice_append rfl,
    slice_append rfl, slice_append rfl, slice, List.drop_zero]
  exact List.take_of_length_le h.le

/-- An info header has the bytes that it was read from. -/
lemma infoHeader_toBytes_ofBytes (h : data.length = 40) :
    (InfoHeader.ofBytes data).toBytes = data := by
  simp only [InfoHeader.toBytes, InfoHeader.ofBytes, UInt32.toUInt32_toInt32]
  rw [ofUInt32_u32At (by omega), ofUInt32_u32At (by omega), ofUInt32_u32At (by omega),
    ofUInt16_u16At (by omega), ofUInt16_u16At (by omega), ofUInt32_u32At (by omega),
    ofUInt32_u32At (by omega), ofUInt32_u32At (by omega), ofUInt32_u32At (by omega),
    ofUInt32_u32At (by omega), ofUInt32_u32At (by omega), slice_append rfl, slice_append rfl,
    slice_append rfl, slice_append rfl, slice_append rfl, slice_append rfl, slice_append rfl,
    slice_append rfl, slice_append rfl, slice_append rfl, slice, List.drop_zero]
  exact List.take_of_length_le h.le

lemma tableEntry_toBytes_ofBytes (h : data.length = 4) :
    (TableEntry.ofBytes data).toBytes = data := by
  obtain ⟨a, b, c, d, rfl⟩ := List.length_eq_four.1 h
  rfl

/-- A color table has the bytes that it was read from. -/
lemma colorTable_toBytes_map {count : Nat} (h : data.length = count * 4) :
    ColorTable.toBytes ((pieces count 4 data).map TableEntry.ofBytes) = data := by
  induction count generalizing data with
  | zero =>
    rw [List.length_eq_zero_iff.1 (h.trans (Nat.zero_mul 4))]
    rfl
  | succ count ih =>
    have hhead := tableEntry_toBytes_ofBytes (show (data.take 4).length = 4 from by simp; omega)
    have hrest := ih (show (data.drop 4).length = count * 4 from by simp; omega)
    rw [pieces_succ, List.map_cons, ColorTable.toBytes, List.flatMap_cons, hhead]
    exact (congrArg (data.take 4 ++ ·) hrest).trans (List.take_append_drop 4 data)

end Raster.Bmp.Format
