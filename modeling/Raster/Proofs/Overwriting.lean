import Raster.Proofs.Bits
import Mathlib

/-!
# Bytes that are overwritten

`overwrite data offset bytes` is a file in which some bytes have been replaced by as many others,
and `setWord data offset w` one in which a field of 32 bits has.  Such a file is as long as before,
holds what has been written where it has been written, and is the same everywhere else; so a field
that has no byte in common with what is written keeps its value.
-/

namespace Raster.Bmp.Format

open LittleEndian

/-- The bytes from an offset on are replaced by others. -/
def overwrite (data : Bytes) (offset : Nat) (bytes : Bytes) : Bytes :=
  data.take offset ++ bytes ++ data.drop (offset + bytes.length)

/-- The field at an offset is set to a value. -/
def setWord (data : Bytes) (offset : Nat) (w : UInt32) : Bytes :=
  overwrite data offset (ofUInt32 w)

variable {data bytes : Bytes} {offset p count k : Nat} {w : UInt32}

section

variable (h : offset + bytes.length ≤ data.length)

include h

lemma length_overwrite : (overwrite data offset bytes).length = data.length := by
  simp only [overwrite, List.length_append, List.length_take, List.length_drop]
  omega

lemma slice_overwrite_self : slice (overwrite data offset bytes) offset bytes.length = bytes := by
  have hoffset : (data.take offset).length = offset := List.length_take_of_le (by omega)
  rw [slice, overwrite, List.append_assoc, List.drop_left' hoffset, List.take_left' rfl]

lemma getElem?_overwrite (hk : k < offset ∨ offset + bytes.length ≤ k) :
    (overwrite data offset bytes)[k]? = data[k]? := by
  have hoffset : (data.take offset).length = offset := List.length_take_of_le (by omega)
  rw [overwrite]
  rcases hk with hk | hk
  · rw [List.append_assoc, List.getElem?_append_left (by omega), List.getElem?_take_of_lt hk]
  · have hfront : (data.take offset ++ bytes).length = offset + bytes.length := by
      rw [List.length_append, hoffset]
    rw [List.getElem?_append_right (by omega), hfront, List.getElem?_drop, Nat.add_sub_cancel' hk]

/-- What ends before the bytes that are written, or starts after them, stays. -/
lemma slice_overwrite (hp : p + count ≤ offset ∨ offset + bytes.length ≤ p) :
    slice (overwrite data offset bytes) p count = slice data p count :=
  slice_congr fun _ _ => getElem?_overwrite h (by omega)

end

/-! ## Fields -/

section

variable (h : offset + 4 ≤ data.length)

include h

lemma length_setWord : (setWord data offset w).length = data.length :=
  length_overwrite (by rwa [length_ofUInt32])

lemma u32At_setWord : u32At (setWord data offset w) offset = w := by
  have hself : slice (setWord data offset w) offset (ofUInt32 w).length = ofUInt32 w :=
    slice_overwrite_self (by rwa [length_ofUInt32])
  rw [length_ofUInt32, slice] at hself
  rw [u32At, hself, decode_ofUInt32, UInt32.ofNat_toNat]

lemma slice_setWord (hp : p + count ≤ offset ∨ offset + 4 ≤ p) :
    slice (setWord data offset w) p count = slice data p count :=
  slice_overwrite (by rwa [length_ofUInt32]) (by rwa [length_ofUInt32])

end

end Raster.Bmp.Format
