import Raster.Bytes.Pieces
import Raster.Bytes.LittleEndian

/-!
# Streams of bits

Compressed data is read bit by bit, each byte from its least significant bit up.  What a read takes
from a stream is recorded in its type: a `Taken α n bits` is a value together with the rest of
the stream, which is at least `n` bits shorter.
-/

namespace Raster.Deflate

/-- A stream of bits. -/
abbrev Bits := List Bool

/-- The bits of a sequence of bytes. -/
def Bits.ofBytes (bytes : Bytes) : Bits :=
  bytes.flatMap fun b => (List.range 8).map b.toNat.testBit

/-- A value read from a stream, and a rest that is at least `n` bits shorter. -/
structure Taken (α : Type) (n : Nat) (bits : Bits) where
  value : α
  rest : Bits
  length_rest : rest.length + n ≤ bits.length

namespace Taken

variable {α β : Type} {n : Nat} {bits : Bits}

/-- A value for which no bits are read. -/
def nothing (value : α) (bits : Bits) : Taken α 0 bits := ⟨value, bits, Nat.le_refl _⟩

/-- The same rest with another value. -/
def map (f : α → β) (t : Taken α n bits) : Taken β n bits := ⟨f t.value, t.rest, t.length_rest⟩

/-- A value read after another one, as read from the start. -/
def after {m : Nat} (t : Taken α n bits) (u : Taken β m t.rest) : Taken β (n + m) bits where
  value := u.value
  rest := u.rest
  length_rest := by
    have := t.length_rest
    have := u.length_rest
    omega

/-- A read value of which fewer bits are claimed. -/
def weaken {m : Nat} (t : Taken α n bits) (h : m ≤ n) : Taken α m bits where
  value := t.value
  rest := t.rest
  length_rest := by
    have := t.length_rest
    omega

end Taken

/-- A number of `n` bits, the least significant one first. -/
def takeNat : (n : Nat) → (bits : Bits) → Option (Taken Nat n bits)
  | 0, bits => some (.nothing 0 bits)
  | _ + 1, [] => none
  | n + 1, b :: rest =>
    (takeNat n rest).map fun t =>
      { value := b.toNat + 2 * t.value, rest := t.rest
        length_rest := by
          have := t.length_rest
          simp only [List.length_cons]
          omega }

/-- The rest of a stream from the next byte on.  A stream of whole bytes has been read up to
somewhere within a byte if the number of bits that are left is not a multiple of eight. -/
def align (bits : Bits) : Taken Unit 0 bits where
  value := ()
  rest := bits.drop (bits.length % 8)
  length_rest := by simp

/-- The byte with the given bits, the least significant one first. -/
def byteOfBits (bits : Bits) : UInt8 := bits.foldr (fun b v => 2 * v + b.toUInt8) 0

/-- A number of whole bytes. -/
def takeBytes (n : Nat) (bits : Bits) : Option (Taken Bytes 0 bits) :=
  if 8 * n ≤ bits.length then
    some { value := (pieces n 8 bits).map byteOfBits, rest := bits.drop (8 * n)
           length_rest := by simp }
  else none

end Raster.Deflate
