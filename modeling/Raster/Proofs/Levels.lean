import Raster.Proofs.GuardedPicture
import Mathlib

/-!
# Levels of channels

A channel of `b` bits has the values up to `2 ^ b - 1`, and a level is a byte.  Reading a channel
scales its value `v` to the integer nearest to `255 * v / (2 ^ b - 1)`, on words of 64 bits and
without a tie to break (`Mask.level_nearest`).

All that is said of levels follows from one fact about the division: the level of a value is the one
number whose product with the largest value is less than half of it away from `255 * v`
(`Mask.scaled_eq_iff`).  There is no number that is just half of it away, because the largest value
is odd.
-/

namespace Raster.Bmp

/-- An integer is nearer to a number than any other integer. -/
def IsNearest (x : ℚ) (n : ℤ) : Prop := ∀ k : ℤ, k ≠ n → |x - n| < |x - k|

/-- The integer less than one half away is the nearest one. -/
lemma isNearest_of_abs_lt {x : ℚ} {n : ℤ} (h : |x - n| < 1 / 2) : IsNearest x n := by
  intro k hk
  have hone : (1 : ℚ) ≤ |(n : ℚ) - k| := by
    have hint : 1 ≤ |n - k| := Int.one_le_abs (sub_ne_zero.2 hk.symm)
    exact_mod_cast hint
  have htriangle : |(n : ℚ) - k| ≤ |x - n| + |x - k| := by
    calc |(n : ℚ) - k| ≤ |n - x| + |x - k| := abs_sub_le _ _ _
      _ = |x - n| + |x - k| := by rw [abs_sub_comm (n : ℚ)]
  linarith

namespace Mask

/-! ## Scaling -/

/-- The level of the value `v` of a channel whose largest value is `d`. -/
def scaled (d v : Nat) : Nat := (v * 255 + d / 2) / d

variable {d k v w : Nat}

/-- The level is less than one half away from the scaled value. -/
lemma scaled_eq_iff (hd : d % 2 = 1) :
    scaled d v = k ↔ 2 * (d * k) < 510 * v + d ∧ 510 * v < 2 * (d * k) + d := by
  rw [scaled, Nat.div_eq_iff (by omega), Nat.mul_comm k]
  omega

lemma scaled_bounds (hd : d % 2 = 1) (v : Nat) :
    2 * (d * scaled d v) < 510 * v + d ∧ 510 * v < 2 * (d * scaled d v) + d :=
  (scaled_eq_iff hd).1 rfl

lemma isNearest_scaled (hd : d % 2 = 1) (v : Nat) :
    IsNearest ((255 * v : ℕ) / (d : ℕ)) (scaled d v) := by
  obtain ⟨hlow, hhigh⟩ := scaled_bounds hd v
  have hpos : (0 : ℚ) < d := by exact_mod_cast (show 0 < d by omega)
  have hlow' : 2 * ((d : ℚ) * scaled d v) < 510 * v + d := by exact_mod_cast hlow
  have hhigh' : 510 * (v : ℚ) < 2 * (d * scaled d v) + d := by exact_mod_cast hhigh
  apply isNearest_of_abs_lt
  rw [abs_lt, Int.cast_natCast, lt_sub_iff_add_lt, sub_lt_iff_lt_add, lt_div_iff₀ hpos,
    div_lt_iff₀ hpos]
  push_cast
  constructor <;> linarith

lemma scaled_zero (hd : d % 2 = 1) : scaled d 0 = 0 := by
  rw [scaled_eq_iff hd]
  omega

lemma scaled_self (hd : d % 2 = 1) : scaled d d = 255 := by
  rw [scaled_eq_iff hd]
  omega

lemma scaled_mono (d : Nat) (h : v ≤ w) : scaled d v ≤ scaled d w := by
  apply Nat.div_le_div_right
  omega

/-- A channel of bytes is not changed. -/
lemma scaled_byte (v : Nat) : scaled 255 v = v := by
  rw [scaled_eq_iff rfl]
  omega

/-- Up to 255 is stretched, so that values stay apart. -/
lemma scaled_injective (hd : d % 2 = 1) (h255 : d ≤ 255) (h : scaled d v = scaled d w) :
    v = w := by
  obtain ⟨hlow, hhigh⟩ := scaled_bounds hd v
  obtain ⟨hlow', hhigh'⟩ := scaled_bounds hd w
  rw [h] at hlow hhigh
  omega

/-- From 255 on is compressed, so that no level is left out. -/
lemma exists_scaled_eq (hd : d % 2 = 1) (h255 : 255 ≤ d) (hk : k ≤ 255) :
    ∃ v ≤ d, scaled d v = k := by
  have hdk : d * k ≤ d * 255 := Nat.mul_le_mul_left d hk
  refine ⟨(2 * (d * k) + 255) / 510, by omega, ?_⟩
  rw [scaled_eq_iff hd]
  omega

/-! ## Channels -/

variable {m : Mask} {b s : Nat}

/-- The largest value of a channel with bits is odd. -/
lemma two_pow_sub_one_odd (hb : 0 < b) : (2 ^ b - 1) % 2 = 1 := by
  obtain ⟨c, rfl⟩ := Nat.exists_eq_add_of_lt hb
  have hpos : 0 < 2 ^ c := by positivity
  rw [Nat.zero_add, Nat.pow_succ]
  omega

lemma value_le (h : m.toNat = (2 ^ b - 1) * 2 ^ s) (hb : 0 < b) (pixel : Nat) :
    m.value pixel ≤ 2 ^ b - 1 := by
  rw [value_of_run h hb]
  exact Nat.le_pred_of_lt (Nat.mod_lt _ (by positivity))

/-- The level of a channel fits into a byte, so nothing is lost of it. -/
lemma toNat_level (h : m.toNat = (2 ^ b - 1) * 2 ^ s) (hb : 0 < b) (pixel : Nat) :
    (m.level pixel).toNat = scaled (2 ^ b - 1) (m.value pixel) := by
  have hodd := two_pow_sub_one_odd hb
  have hle := scaled_le (by omega) (value_le h hb pixel)
  rw [level, largest_of_run h hb, UInt8.toNat_ofNat_of_lt' (Nat.lt_succ_of_le hle), scaled]

/-- Every value is that of a pixel. -/
lemma exists_value_eq (h : m.toNat = (2 ^ b - 1) * 2 ^ s) (hb : 0 < b) (hv : v ≤ 2 ^ b - 1) :
    ∃ pixel : UInt32, m.value pixel.toNat = v := by
  have hone : 1 ≤ 2 ^ b := Nat.one_le_two_pow
  have hlt : v * 2 ^ s < 2 ^ 32 := by
    calc v * 2 ^ s ≤ (2 ^ b - 1) * 2 ^ s := Nat.mul_le_mul_right _ hv
      _ = m.toNat := h.symm
      _ < 2 ^ 32 := m.toNat_lt
  refine ⟨.ofNat (v * 2 ^ s), ?_⟩
  rw [UInt32.toNat_ofNat_of_lt' hlt, value_of_run h hb, Nat.mul_div_cancel _ (by positivity),
    Nat.mod_eq_of_lt (by omega)]

/-- A mask of `b` bits from position `s` on reads a channel of every pixel and rounds its level
correctly. -/
structure RoundsCorrectly (m : Mask) (b s : Nat) : Prop where
  shift_eq : m.shift = s
  run_le : s + b ≤ 32
  -- one pixel, on words of 64 bits
  value_eq : ∀ pixel : UInt32, m.value pixel.toNat = (pixel &&& m).toNat >>> s
  value_le : ∀ pixel : UInt32, m.value pixel.toNat ≤ 2 ^ b - 1
  channel_eq : Machine.channel m = .ok (some (s, 2 ^ b - 1))
  machine_eq : ∀ (pixel : UInt32) (absent : UInt8),
    Machine.level m absent pixel.toNat (some (s, 2 ^ b - 1)) = .ok (m.level pixel.toNat)
  rounded_lt : ∀ pixel : UInt32, m.value pixel.toNat * 255 + (2 ^ b - 1) / 2 < 2 ^ 64
  quotient_le : ∀ pixel : UInt32,
    (m.value pixel.toNat * 255 + (2 ^ b - 1) / 2) / (2 ^ b - 1) ≤ 255
  level_eq : ∀ pixel : UInt32, (m.level pixel.toNat).toNat =
    (m.value pixel.toNat * 255 + (2 ^ b - 1) / 2) / (2 ^ b - 1)
  nearest : ∀ pixel : UInt32, IsNearest ((255 * m.value pixel.toNat : ℕ) / (2 ^ b - 1 : ℕ))
    (m.level pixel.toNat).toNat
  zero : ∀ pixel : UInt32, m.value pixel.toNat = 0 → m.level pixel.toNat = 0
  largest : ∀ pixel : UInt32, m.value pixel.toNat = 2 ^ b - 1 → m.level pixel.toNat = 255
  byte : b = 8 → ∀ pixel : UInt32, (m.level pixel.toNat).toNat = m.value pixel.toNat
  -- several pixels
  mono : ∀ p q : UInt32, m.value p.toNat ≤ m.value q.toNat → m.level p.toNat ≤ m.level q.toNat
  injective : b ≤ 8 → ∀ p q : UInt32, m.level p.toNat = m.level q.toNat →
    m.value p.toNat = m.value q.toNat
  surjective : 8 ≤ b → ∀ level : UInt8, ∃ pixel : UInt32, m.level pixel.toNat = level
  outside : ∀ p q : UInt32, p &&& m = q &&& m → m.level p.toNat = m.level q.toNat

/-- **Levels are rounded correctly.**  Through a mask of `b` consecutive bits, every pixel has the
level that is nearest to its value, scaled from `0 .. 2 ^ b - 1` to `0 .. 255`. -/
theorem level_nearest (h : m.toNat = (2 ^ b - 1) * 2 ^ s) (hb : 0 < b) :
    RoundsCorrectly m b s := by
  have hodd := two_pow_sub_one_odd hb
  have hrun := isRun_iff.2 ⟨b, s, h⟩
  have hshift := shift_of_run h hb
  have hlargest := largest_of_run h hb
  have hm : m ≠ 0 := by
    rintro rfl
    have hpos : 0 < (2 ^ b - 1) * 2 ^ s := Nat.mul_pos (by omega) (by positivity)
    exact absurd h (Nat.ne_of_lt hpos)
  have hchannel : (if m = 0 then none else some (m.shift, m.largest)) = some (s, 2 ^ b - 1) := by
    rw [if_neg hm, hshift, hlargest]
  have hlevel (pixel : UInt32) := toNat_level h hb pixel.toNat
  have hvalue (pixel : UInt32) := value_le h hb pixel.toNat
  refine {
    shift_eq := hshift
    run_le := run_le h hb
    value_eq := fun pixel => ?_
    value_le := hvalue
    channel_eq := ?_
    machine_eq := fun pixel absent => ?_
    rounded_lt := fun pixel => ?_
    quotient_le := fun pixel => scaled_le (by omega) (hvalue pixel)
    level_eq := hlevel
    nearest := fun pixel => ?_
    zero := fun pixel hzero => ?_
    largest := fun pixel hmax => ?_
    byte := fun h8 pixel => ?_
    mono := fun p q hle => ?_
    injective := fun h8 p q heq => ?_
    surjective := fun h8 level => ?_
    outside := fun p q heq => ?_ }
  · rw [value, hshift, UInt32.toNat_and]
  · rw [Machine.channel_eq hrun, hchannel]
  · rw [← hchannel, Machine.level_eq hrun absent pixel.toNat_lt, levelOr, if_neg hm]
  · have hend := run_le h hb
    have hpow : 2 ^ b ≤ 2 ^ 32 := Nat.pow_le_pow_right (by norm_num) (by omega)
    have hle := hvalue pixel
    omega
  · rw [hlevel]
    exact isNearest_scaled hodd _
  · rw [← UInt8.toNat_inj, hlevel, hzero, scaled_zero hodd]
    rfl
  · rw [← UInt8.toNat_inj, hlevel, hmax, scaled_self hodd]
    rfl
  · subst h8
    rw [hlevel]
    exact scaled_byte _
  · rw [UInt8.le_iff_toNat_le, hlevel, hlevel]
    exact scaled_mono _ hle
  · have hpow : 2 ^ b ≤ 2 ^ 8 := Nat.pow_le_pow_right (by norm_num) h8
    rw [← UInt8.toNat_inj, hlevel, hlevel] at heq
    exact scaled_injective hodd (by omega) heq
  · have hpow : 2 ^ 8 ≤ 2 ^ b := Nat.pow_le_pow_right (by norm_num) h8
    have hbyte := level.toNat_lt
    obtain ⟨v, hv, hscaled⟩ := exists_scaled_eq hodd (by omega) (show level.toNat ≤ 255 by omega)
    obtain ⟨pixel, rfl⟩ := exists_value_eq h hb hv
    refine ⟨pixel, ?_⟩
    rw [← UInt8.toNat_inj, hlevel, hscaled]
  · have hand : p.toNat &&& m.toNat = q.toNat &&& m.toNat := by
      rw [← UInt32.toNat_and, heq, UInt32.toNat_and]
    rw [level, level, value, value, hand]

/-- Five bits from position 10 on: the value 16 of 31 has the level 132. -/
theorem level_nearest_sample :
    (0x7c00 : Mask).toNat = (2 ^ 5 - 1) * 2 ^ 10 ∧ RoundsCorrectly 0x7c00 5 10 ∧
      IsNearest ((255 * 16 : ℕ) / (31 : ℕ)) 132 := by
  have hrounds : RoundsCorrectly 0x7c00 5 10 := level_nearest rfl (by decide)
  exact ⟨rfl, hrounds, hrounds.nearest 0x4000⟩

end Mask

end Raster.Bmp
