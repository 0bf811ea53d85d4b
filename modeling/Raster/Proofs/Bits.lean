import Raster.Proofs.Rows
import Mathlib

/-!
# The bits of byte strings

What is stored in a byte string comes down to its bits: bit `j` of the byte at position `p` is
`bitAt data p j`.  Two byte strings of one length have the same byte where they have the same eight
bits (`getElem?_congr`), and hence the same slice where they have the same bytes (`slice_congr`).
A little-endian number has the bits of its bytes, the lowest byte first (`testBit_decode_slice`);
the bits of a row are counted from the highest bit of its first byte (`getElem?_bitsOf_slice`).
-/

namespace Raster.Bmp.Format

open LittleEndian

/-- Bit `j` of the byte at position `p`, where bit 0 is the lowest; bits that are absent count as
0. -/
def bitAt (data : Bytes) (p j : Nat) : Bool := (data[p]?.getD 0).toNat.testBit j

variable {data data' : Bytes} {offset count p j k : Nat}

/-! ## Equal bits -/

/-- A byte is made of its eight bits. -/
lemma byte_ext {a b : UInt8} (h : ∀ j < 8, a.toNat.testBit j = b.toNat.testBit j) : a = b := by
  apply UInt8.toNat_inj.1
  apply Nat.eq_of_testBit_eq
  intro j
  by_cases hj : j < 8
  · exact h j hj
  · have hpow : 2 ^ 8 ≤ 2 ^ j := Nat.pow_le_pow_right (by decide) (by omega)
    rw [Nat.testBit_lt_two_pow (lt_of_lt_of_le a.toNat_lt hpow),
      Nat.testBit_lt_two_pow (lt_of_lt_of_le b.toNat_lt hpow)]

/-- Equal bits make up the same byte. -/
lemma getElem?_congr (hlength : data'.length = data.length)
    (h : ∀ j < 8, bitAt data' p j = bitAt data p j) : data'[p]? = data[p]? := by
  by_cases hp : p < data.length
  · have hget := List.getElem?_eq_getElem hp
    have hget' := List.getElem?_eq_getElem (l := data') (hlength ▸ hp)
    simp only [bitAt, hget, hget', Option.getD_some] at h
    rw [hget, hget', byte_ext h]
  · rw [List.getElem?_eq_none (by omega), List.getElem?_eq_none (by omega)]

lemma getElem?_slice (hk : k < count) : (slice data offset count)[k]? = data[offset + k]? := by
  rw [slice, List.getElem?_take_of_lt hk, List.getElem?_drop]

/-- Equal bytes make up the same slice. -/
lemma slice_congr (h : ∀ k < count, data'[offset + k]? = data[offset + k]?) :
    slice data' offset count = slice data offset count := by
  apply List.ext_getElem?
  intro k
  by_cases hk : k < count
  · rw [getElem?_slice hk, getElem?_slice hk, h k hk]
  · rw [slice, slice, List.getElem?_take_eq_none (by omega), List.getElem?_take_eq_none (by omega)]

/-! ## The bits of what is stored -/

/-- The lowest bits of a number are those of its lowest byte. -/
lemma testBit_decode (bytes : Bytes) (k : Nat) :
    (decode bytes).testBit k = bitAt bytes (k / 8) (k % 8) := by
  induction bytes generalizing k with
  | nil => simp [bitAt]
  | cons b rest ih =>
    rw [decode_cons, Nat.add_comm, show 256 = 2 ^ 8 from rfl,
      Nat.testBit_two_pow_mul_add _ b.toNat_lt]
    split
    · next hk =>
      -- within the first byte
      rw [bitAt, Nat.div_eq_of_lt hk, Nat.mod_eq_of_lt hk]
      rfl
    · next hk =>
      have hdiv : k / 8 = (k - 8) / 8 + 1 := by omega
      have hmod : k % 8 = (k - 8) % 8 := by omega
      rw [ih, bitAt, bitAt, hdiv, hmod, List.getElem?_cons_succ]

/-- A stored number has no bits beyond its bytes. -/
lemma testBit_decode_slice :
    (decode (slice data offset count)).testBit k =
      (decide (k < 8 * count) && bitAt data (offset + k / 8) (k % 8)) := by
  rw [testBit_decode]
  by_cases hk : k < 8 * count
  · rw [bitAt, getElem?_slice (by omega), decide_eq_true hk, Bool.true_and]
    rfl
  · rw [bitAt, slice, List.getElem?_take_eq_none (by omega), decide_eq_false hk, Bool.false_and]
    exact Nat.zero_testBit _

/-- The bits of a row are numbered from the highest bit of each byte down. -/
lemma getElem?_bitsOf_slice (hk : k / 8 < count) (hdata : offset + k / 8 < data.length) :
    (bitsOf (slice data offset count))[k]? = some (bitAt data (offset + k / 8) (7 - k % 8)) := by
  have hget := List.getElem?_eq_getElem hdata
  have hbyte : (slice data offset count)[k / 8]? = some data[offset + k / 8] :=
    (getElem?_slice hk).trans hget
  have hbit := getElem?_blocks (fun b _ => length_bits b) hbyte (Nat.mod_lt k (by decide : 0 < 8))
  rw [Nat.div_add_mod'] at hbit
  rw [bitsOf, hbit, List.getElem?_map, List.getElem?_range (Nat.mod_lt k (by decide)), bitAt, hget]
  rfl

end Raster.Bmp.Format
