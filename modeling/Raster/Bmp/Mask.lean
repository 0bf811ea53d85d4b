import Raster.Text.Hex

/-!
# Masks of bits

A mask selects the bits of a pixel that hold one color channel.  The bits of a usable mask are one
run: shifted down to its lowest bit, the mask is `2 ^ n - 1` for its number `n` of bits
(`Mask.IsRun`).  `Mask.level` reads a channel of a pixel and scales it to a byte: it is the
number nearest to `255 * v / m`, where `v` is the value of the channel and `m` the largest such
value.
-/

namespace Raster.Bmp

/-- A selection of the bits of a pixel. -/
abbrev Mask := UInt32

namespace Mask

/-- The position of the lowest bit of a mask, 0 for the empty mask. -/
def shift (m : Mask) : Nat := ((List.range 32).find? m.toNat.testBit).getD 0

/-- The number of bits of a mask. -/
def count (m : Mask) : Nat := (List.range 32).countP m.toNat.testBit

/-- The largest value that a channel with as many bits as the mask can have. -/
def largest (m : Mask) : Nat := (1 <<< m.count) - 1

/-- The bits of the mask are consecutive. -/
def IsRun (m : Mask) : Prop := m.toNat >>> m.shift = m.largest

instance (m : Mask) : Decidable m.IsRun := inferInstanceAs (Decidable (_ = _))

/-- The mask selects none but the low `bits` bits of a pixel. -/
def Fits (m : Mask) (bits : Nat) : Prop := m.toNat < 1 <<< bits

instance (m : Mask) (bits : Nat) : Decidable (m.Fits bits) := inferInstanceAs (Decidable (_ < _))

/-- What is wrong with a mask. -/
inductive Fault where
  /-- It selects bits beyond the pixel. -/
  | tooWide
  /-- Its bits are not consecutive. -/
  | broken
deriving DecidableEq

/-- The fault of a mask over pixels of `bits` bits.  A mask that is too wide counts as that. -/
def fault? (m : Mask) (bits : Nat) : Option Fault :=
  if ¬ m.Fits bits then some .tooWide
  else if ¬ m.IsRun then some .broken
  else none

/-- The value of the selected bits of a pixel. -/
def value (m : Mask) (pixel : Nat) : Nat := (pixel &&& m.toNat) >>> m.shift

/-- The value of the selected bits, scaled from `0 .. m.largest` to `0 .. 255` and rounded to the
nearest number. -/
def level (m : Mask) (pixel : Nat) : UInt8 :=
  .ofNat ((m.value pixel * 255 + m.largest / 2) / m.largest)

/-- A channel of a pixel, or the given value if the mask is empty. -/
def levelOr (m : Mask) (absent : UInt8) (pixel : Nat) : UInt8 :=
  if m = 0 then absent else m.level pixel

/-- The display of a mask. -/
def text (m : Mask) : String := "0x" ++ Hex.padded 8 m.toNat

theorem fault?_eq_none_iff {m : Mask} {bits : Nat} :
    m.fault? bits = none ↔ m.Fits bits ∧ m.IsRun := by
  unfold fault?
  split
  · simp_all
  · split <;> simp_all

end Mask

end Raster.Bmp
