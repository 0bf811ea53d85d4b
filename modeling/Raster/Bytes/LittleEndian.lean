/-!
# Little-endian words

A word of `n` bytes is stored with its least significant byte first.  `encode` writes the `n` low
bytes of a number and `decode` reads a list of bytes back, so that the two are inverse to each
other on the words that fit (`decode_encode`) and on the lists of that length (`encode_decode`).
`u16At` and `u32At` read a field of a record by its offset.
-/

namespace Raster

/-- A sequence of bytes. -/
abbrev Bytes := List UInt8

/-- The largest number of bytes that can be asked for at once, on a machine with addresses of 64
bits. -/
def maxCapacity : Nat := 0x7fffffffffffffff

namespace LittleEndian

/-- The `n` low bytes of a number, the least significant one first. -/
def encode : Nat → Nat → Bytes
  | 0, _ => []
  | n + 1, v => UInt8.ofNat v :: encode n (v / 256)

/-- The number whose bytes are listed, the least significant one first. -/
def decode : Bytes → Nat
  | [] => 0
  | b :: rest => b.toNat + 256 * decode rest

@[simp] theorem encode_zero (v : Nat) : encode 0 v = [] := rfl

@[simp] theorem decode_nil : decode [] = 0 := rfl

@[simp] theorem decode_cons (b : UInt8) (rest : Bytes) :
    decode (b :: rest) = b.toNat + 256 * decode rest := rfl

@[simp] theorem length_encode (n v : Nat) : (encode n v).length = n := by
  induction n generalizing v with
  | zero => rfl
  | succ n ih => simp [encode, ih]

/-- A number of one byte more is 256 times as large. -/
theorem one_shiftLeft_succ (n : Nat) : 1 <<< (8 * (n + 1)) = 256 * (1 <<< (8 * n)) := by
  rw [Nat.mul_succ, Nat.shiftLeft_add, Nat.shiftLeft_eq _ 8, Nat.mul_comm]

/-- A list of `n` bytes stands for a number of `8 * n` bits. -/
theorem decode_lt (bytes : Bytes) : decode bytes < 1 <<< (8 * bytes.length) := by
  induction bytes with
  | nil => simp
  | cons b rest ih =>
    have hb := b.toNat_lt
    rw [decode_cons, List.length_cons, one_shiftLeft_succ]
    omega

/-- Reading a written word gives the word back, up to the bytes that were not written. -/
theorem decode_encode (n v : Nat) : decode (encode n v) = v % (1 <<< (8 * n)) := by
  induction n generalizing v with
  | zero => simp [Nat.mod_one]
  | succ n ih =>
    rw [encode, decode_cons, ih, UInt8.toNat_ofNat', one_shiftLeft_succ]
    exact Nat.mod_mul.symm

/-- Writing a number that was read gives the bytes back. -/
theorem encode_decode (bytes : Bytes) : encode bytes.length (decode bytes) = bytes := by
  induction bytes with
  | nil => rfl
  | cons b rest ih =>
    have hb := b.toNat_lt
    have low : UInt8.ofNat (b.toNat + 256 * decode rest) = b := by
      apply UInt8.toNat_inj.mp
      rw [UInt8.toNat_ofNat']
      omega
    have high : (b.toNat + 256 * decode rest) / 256 = decode rest := by omega
    simp [encode, low, high, ih]

/-! ## Fields of a record -/

/-- The 16-bit field at an offset of a record. -/
def u16At (record : Bytes) (offset : Nat) : UInt16 :=
  .ofNat (decode ((record.drop offset).take 2))

/-- The 32-bit field at an offset of a record. -/
def u32At (record : Bytes) (offset : Nat) : UInt32 :=
  .ofNat (decode ((record.drop offset).take 4))

/-- The two bytes of a 16-bit field. -/
def ofUInt16 (v : UInt16) : Bytes := encode 2 v.toNat

/-- The four bytes of a 32-bit field. -/
def ofUInt32 (v : UInt32) : Bytes := encode 4 v.toNat

@[simp] theorem length_ofUInt16 (v : UInt16) : (ofUInt16 v).length = 2 := length_encode 2 _

@[simp] theorem length_ofUInt32 (v : UInt32) : (ofUInt32 v).length = 4 := length_encode 4 _

@[simp] theorem decode_ofUInt16 (v : UInt16) : decode (ofUInt16 v) = v.toNat := by
  rw [ofUInt16, decode_encode, Nat.mod_eq_of_lt]
  exact v.toNat_lt

@[simp] theorem decode_ofUInt32 (v : UInt32) : decode (ofUInt32 v) = v.toNat := by
  rw [ofUInt32, decode_encode, Nat.mod_eq_of_lt]
  exact v.toNat_lt

/-- A field at the start of a record is read back. -/
theorem u16At_ofUInt16_append (v : UInt16) (rest : Bytes) : u16At (ofUInt16 v ++ rest) 0 = v := by
  simp [u16At, List.take_left' (length_ofUInt16 v)]

/-- A field at the start of a record is read back. -/
theorem u32At_ofUInt32_append (v : UInt32) (rest : Bytes) : u32At (ofUInt32 v ++ rest) 0 = v := by
  simp [u32At, List.take_left' (length_ofUInt32 v)]

theorem u16At_append_right {first rest : Bytes} {offset : Nat} (h : first.length ≤ offset) :
    u16At (first ++ rest) offset = u16At rest (offset - first.length) := by
  simp [u16At, List.drop_append, List.drop_eq_nil_of_le h]

theorem u32At_append_right {first rest : Bytes} {offset : Nat} (h : first.length ≤ offset) :
    u32At (first ++ rest) offset = u32At rest (offset - first.length) := by
  simp [u32At, List.drop_append, List.drop_eq_nil_of_le h]

end LittleEndian

end Raster
