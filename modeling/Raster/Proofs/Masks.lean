import Raster.Proofs.Format
import Mathlib

/-!
# Runs of bits

A mask whose bits are one run is `(2 ^ b - 1) * 2 ^ s`, with `b` bits from position `s` on.  This
file brings the functions of a mask into that form: lowest bit and number of bits are `s` and `b`
(`shift_of_run`, `count_of_run`), the selected value is `pixel / 2 ^ s % 2 ^ b` (`value_of_run`),
and the level of the channel is that value scaled to the nearest integer (`level_levelOr`).  The
check of a mask finds exactly the masks of this form (`isRunBelow_iff`).
-/

namespace Raster.Bmp

lemma Depth.colors_eq (d : Depth) : d.colors = 2 ^ d.bits := Nat.one_shiftLeft _

namespace Mask

variable {m : Mask} {b s : Nat}

lemma largest_eq (m : Mask) : m.largest = 2 ^ m.count - 1 := by
  rw [largest, Nat.one_shiftLeft]

lemma fits_iff {bits : Nat} : m.Fits bits ↔ m.toNat < 2 ^ bits := by
  rw [Fits, Nat.one_shiftLeft]

/-- The bits of a run. -/
lemma testBit_run (b s i : Nat) :
    ((2 ^ b - 1) * 2 ^ s).testBit i = decide (s ≤ i ∧ i < s + b) := by
  rw [Nat.testBit_mul_two_pow, Nat.testBit_two_pow_sub_one, Bool.decide_and]
  by_cases h : s ≤ i
  · simp only [h, decide_true, Bool.true_and, decide_eq_decide]
    omega
  · simp [h]

/-- A mask has 32 bits, so a run that is not empty ends within them. -/
lemma run_le (h : m.toNat = (2 ^ b - 1) * 2 ^ s) (hb : 0 < b) : s + b ≤ 32 := by
  by_contra hlt
  have hbit : m.toNat.testBit (s + b - 1) = true := by
    rw [h, testBit_run, decide_eq_true_eq]
    omega
  have hm : m.toNat < 2 ^ (s + b - 1) :=
    lt_of_lt_of_le m.toNat_lt (Nat.pow_le_pow_right (by norm_num) (by omega))
  rw [Nat.testBit_lt_two_pow hm] at hbit
  exact absurd hbit (by simp)

/-- The lowest bit of a run is where the run starts. -/
lemma shift_of_run (h : m.toNat = (2 ^ b - 1) * 2 ^ s) (hb : 0 < b) : m.shift = s := by
  have hle := run_le h hb
  have hfind : (List.range 32).find? m.toNat.testBit = some s := by
    rw [List.find?_range_eq_some]
    refine ⟨?_, List.mem_range.2 (by omega), fun j hj => ?_⟩
    · rw [h, testBit_run, decide_eq_true_eq]
      omega
    · rw [h, testBit_run, Bool.not_eq_true', decide_eq_false_iff_not]
      omega
  rw [shift, hfind]
  rfl

/-- Of the first `n` positions, a run covers those between its start and its end. -/
lemma countP_run (b s n : Nat) :
    (List.range n).countP ((2 ^ b - 1) * 2 ^ s).testBit = min n (s + b) - min n s := by
  induction n with
  | zero => simp
  | succ n ih =>
    rw [List.range_succ, List.countP_append, ih, List.countP_singleton, testBit_run]
    -- position `n` counts if and only if it is one of the run
    by_cases h : s ≤ n ∧ n < s + b
    · simp only [h, and_self, decide_true, if_true]
      omega
    · simp only [h, decide_false, Bool.false_eq_true, if_false]
      omega

/-- The number of bits of a run is its length. -/
lemma count_of_run (h : m.toNat = (2 ^ b - 1) * 2 ^ s) (hb : 0 < b) : m.count = b := by
  have hle := run_le h hb
  rw [count, h, countP_run]
  omega

lemma eq_zero_of_toNat_eq_zero (h : m.toNat = 0) : m = 0 := UInt32.toNat_inj.1 h

/-- No bit below the lowest one is set. -/
lemma two_pow_shift_dvd (m : Mask) : 2 ^ m.shift ∣ m.toNat := by
  rw [Nat.dvd_iff_mod_eq_zero]
  apply Nat.eq_of_testBit_eq
  intro i
  rw [Nat.testBit_mod_two_pow, Nat.zero_testBit]
  by_cases hi : i < m.shift
  · cases hfind : (List.range 32).find? m.toNat.testBit with
    | none => simp [shift, hfind] at hi
    | some k =>
      -- a set bit below the lowest one would have been found first
      have hk : m.shift = k := by simp [shift, hfind]
      have hlow := (List.find?_range_eq_some.1 hfind).2.2 i (hk ▸ hi)
      simpa [hi] using hlow
  · simp [hi]

/-- The bits of a mask are one run if and only if the mask is a run as a number. -/
lemma isRun_iff : m.IsRun ↔ ∃ b s, m.toNat = (2 ^ b - 1) * 2 ^ s := by
  constructor
  · intro h
    refine ⟨m.count, m.shift, ?_⟩
    rw [IsRun, Nat.shiftRight_eq_div_pow, largest_eq] at h
    rw [← h, Nat.div_mul_cancel (two_pow_shift_dvd m)]
  · rintro ⟨b, s, h⟩
    rcases Nat.eq_zero_or_pos b with rfl | hb
    · have hm : m = 0 := eq_zero_of_toNat_eq_zero (by simpa using h)
      subst hm
      decide
    · rw [IsRun, largest_eq, shift_of_run h hb, count_of_run h hb, h, Nat.shiftRight_eq_div_pow]
      exact Nat.mul_div_cancel _ (by positivity)

/-- A run fits into as many bits as its end says. -/
lemma fits_of_run (h : m.toNat = (2 ^ b - 1) * 2 ^ s) (hb : 0 < b) (bits : Nat) :
    m.Fits bits ↔ s + b ≤ bits := by
  rw [fits_iff]
  constructor
  · intro hlt
    -- otherwise the last bit of the run would make the mask too large
    by_contra hgt
    have hbit : m.toNat.testBit (s + b - 1) = true := by
      rw [h, testBit_run, decide_eq_true_eq]
      omega
    rw [Nat.testBit_lt_two_pow (lt_of_lt_of_le hlt
      (Nat.pow_le_pow_right (by norm_num) (by omega)))] at hbit
    exact absurd hbit (by simp)
  · intro hle
    have hone : 1 ≤ 2 ^ b := Nat.one_le_two_pow
    calc m.toNat = (2 ^ b - 1) * 2 ^ s := h
      _ < 2 ^ b * 2 ^ s := Nat.mul_lt_mul_of_pos_right (by omega) (by positivity)
      _ = 2 ^ (s + b) := by rw [← pow_add, Nat.add_comm]
      _ ≤ 2 ^ bits := Nat.pow_le_pow_right (by norm_num) hle

/-- The check of a mask accepts the runs below the bits of a pixel, the empty one among them. -/
lemma isRunBelow_iff {bits : Nat} : Format.IsRunBelow bits m.toNat ↔ m.Fits bits ∧ m.IsRun := by
  rw [isRun_iff]
  constructor
  · rintro ⟨b, s, hle, h⟩
    refine ⟨?_, b, s, h⟩
    rcases Nat.eq_zero_or_pos b with rfl | hb
    · simp [fits_iff, h]
    · exact (fits_of_run h hb bits).2 hle
  · rintro ⟨hfits, b, s, h⟩
    rcases Nat.eq_zero_or_pos b with rfl | hb
    · exact ⟨0, 0, Nat.zero_le _, by simpa using h⟩
    · exact ⟨b, s, (fits_of_run h hb bits).1 hfits, h⟩

/-! ## Levels -/

/-- The selected bits of a pixel, shifted down. -/
lemma value_of_run (h : m.toNat = (2 ^ b - 1) * 2 ^ s) (hb : 0 < b) (pixel : Nat) :
    m.value pixel = pixel / 2 ^ s % 2 ^ b := by
  rw [value, shift_of_run h hb, h, ← Nat.shiftRight_eq_div_pow]
  apply Nat.eq_of_testBit_eq
  intro i
  rw [Nat.testBit_shiftRight, Nat.testBit_and, testBit_run, Nat.testBit_mod_two_pow,
    Nat.testBit_shiftRight, Bool.and_comm]
  congr 1
  rw [decide_eq_decide]
  omega

lemma largest_of_run (h : m.toNat = (2 ^ b - 1) * 2 ^ s) (hb : 0 < b) : m.largest = 2 ^ b - 1 := by
  rw [largest_eq, count_of_run h hb]

/-- Adding half of the divisor before a division rounds to the nearest integer. -/
lemma round_div (n d : Nat) (hd : 0 < d) :
    round ((n : ℚ) / (d : ℕ)) = ((n + d / 2) / d : ℕ) := by
  have hd' : (d : ℚ) ≠ 0 := by positivity
  have hsum : (n : ℚ) / (d : ℕ) + 1 / 2 = ((2 * n + d : ℕ) : ℚ) / ((2 * d : ℕ) : ℚ) := by
    push_cast
    field_simp
  have hdiv : (2 * n + d) / (2 * d) = (n + d / 2) / d := by
    rw [← Nat.div_div_eq_div_mul]
    congr 1
    omega
  rw [round_eq, hsum, Rat.floor_natCast_div_natCast, ← hdiv]
  norm_cast

/-- A channel does not get brighter than 255. -/
lemma scaled_le {v d : Nat} (hd : 0 < d) (hv : v ≤ d) : (v * 255 + d / 2) / d ≤ 255 := by
  have hlt : v * 255 + d / 2 < 256 * d := by
    have : v * 255 ≤ d * 255 := Nat.mul_le_mul_right _ hv
    omega
  have := Nat.div_lt_of_lt_mul (Nat.mul_comm 256 d ▸ hlt)
  omega

/-- A channel of eight bits is a byte of the pixel. -/
lemma levelOr_of_byte {k : Nat} (h : m.toNat = 255 * 256 ^ k) (absent : UInt8) (pixel : Nat) :
    m.levelOr absent pixel = UInt8.ofNat (pixel / 256 ^ k) := by
  have hpow : 256 ^ k = 2 ^ (8 * k) := (pow_mul 2 8 k).symm
  have hrun : m.toNat = (2 ^ 8 - 1) * 2 ^ (8 * k) := hpow ▸ h
  have hm : m ≠ 0 := by
    rintro rfl
    have hpos : 0 < 255 * 256 ^ k := by positivity
    exact absurd h (Nat.ne_of_lt hpos)
  have hexact : (pixel / 256 ^ k % 2 ^ 8 * 255 + (2 ^ 8 - 1) / 2) / (2 ^ 8 - 1) =
      pixel / 256 ^ k % 2 ^ 8 := by omega
  rw [levelOr, if_neg hm, level, value_of_run hrun (by norm_num), largest_of_run hrun (by norm_num),
    ← hpow, hexact]
  apply UInt8.toNat_inj.1
  rw [UInt8.toNat_ofNat', UInt8.toNat_ofNat', Nat.mod_mod]

/-- A mask that is one run and selects anything has a first bit and a length. -/
lemma exists_run (h : m.IsRun) (hm : m ≠ 0) : ∃ b s, 0 < b ∧ m.toNat = (2 ^ b - 1) * 2 ^ s := by
  obtain ⟨b, s, hrun⟩ := isRun_iff.1 h
  rcases Nat.eq_zero_or_pos b with rfl | hb
  · exact absurd (eq_zero_of_toNat_eq_zero (by simpa using hrun)) hm
  · exact ⟨b, s, hb, hrun⟩

/-- The level that is read through a mask is the one the format asks for. -/
lemma level_levelOr (h : m.IsRun) (absent : UInt8) (pixel : Nat) :
    Format.Level m absent pixel (m.levelOr absent pixel) := by
  by_cases hm : m = 0
  · exact Or.inl ⟨hm, if_pos hm⟩
  · obtain ⟨b, s, hb, hrun⟩ := exists_run h hm
    have htwo : 2 ≤ 2 ^ b := Nat.le_self_pow (Nat.ne_of_gt hb) 2
    have hv : pixel / 2 ^ s % 2 ^ b < 2 ^ b := Nat.mod_lt _ (by positivity)
    have hle := scaled_le (v := pixel / 2 ^ s % 2 ^ b) (d := 2 ^ b - 1) (by omega) (by omega)
    refine Or.inr ⟨b, s, hb, hrun, ?_⟩
    rw [levelOr, if_neg hm, level, value_of_run hrun hb, largest_of_run hrun hb,
      UInt8.toNat_ofNat_of_lt' (Nat.lt_succ_of_le hle)]
    have hround := round_div (pixel / 2 ^ s % 2 ^ b * 255) (2 ^ b - 1) (by omega)
    rw [← hround]
    congr 2
    push_cast
    ring

end Mask

end Raster.Bmp
