import Raster.Proofs.GuardedPicture
import Mathlib

/-!
# Which masks are accepted

The masks that a file stores are checked channel by channel: none may have a bit beyond the pixel,
and the bits of each must be consecutive.  A machine finds the latter with one addition.  Shifted
down to its lowest bit, a run is a number of ones, and adding 1 carries through all of them, so that
the sum has no bit in common with the run (`Mask.isRun_iff_and`); of no other word is this true.

`ChannelMasks.validated` is the check on words of 32 bits.  It is the one that the reader makes, and
it accepts the masks of the form `(2 ^ b - 1) * 2 ^ s` below the bits of a pixel
(`ChannelMasks.validated_exact`).
-/

namespace Raster.Bmp

open Format

/-! ## Adding 1 to a run -/

/-- The number of ones has no bit in common with its successor, and is the only such number. -/
lemma and_succ_eq_zero_iff (n : Nat) : n &&& (n + 1) = 0 ↔ ∃ b, n = 2 ^ b - 1 := by
  constructor
  · intro h
    induction n using Nat.strong_induction_on with
    | _ n ih =>
      have hhalf : n / 2 &&& (n + 1) / 2 = 0 := by rw [← Nat.and_div_two, h]
      rcases Nat.mod_two_eq_zero_or_one n with heven | hodd
      · -- the upper bits are the same in both, so there are none
        have hsame : (n + 1) / 2 = n / 2 := by omega
        rw [hsame, Nat.and_self] at hhalf
        exact ⟨0, by omega⟩
      · -- the lowest bit carries into the upper ones
        have hcarry : (n + 1) / 2 = n / 2 + 1 := by omega
        rw [hcarry] at hhalf
        obtain ⟨b, hb⟩ := ih (n / 2) (by omega) hhalf
        refine ⟨b + 1, ?_⟩
        have hone : 1 ≤ 2 ^ b := Nat.one_le_two_pow
        rw [Nat.pow_succ]
        omega
  · rintro ⟨b, rfl⟩
    rw [Nat.sub_add_cancel Nat.one_le_two_pow, Nat.and_comm, Nat.and_two_pow_sub_one_eq_mod,
      Nat.mod_self]

namespace Mask

variable {m : Mask} {bits : Nat}

lemma shift_lt (m : Mask) : m.shift < 32 := by
  rw [shift]
  cases h : (List.range 32).find? m.toNat.testBit with
  | none => decide
  | some k => exact List.mem_range.1 (List.mem_of_find?_eq_some h)

/-- A mask shifted down to its lowest bit.  The empty mask has none, and stays as it is. -/
def lowered (m : Mask) : UInt32 := if m = 0 then 0 else m >>> .ofNat m.shift

lemma toNat_lowered (m : Mask) : m.lowered.toNat = m.toNat >>> m.shift := by
  have hlt := m.shift_lt
  rw [lowered]
  split
  · next hm => rw [hm, UInt32.toNat_zero, Nat.zero_shiftRight]
  · rw [UInt32.toNat_shiftRight, UInt32.toNat_ofNat_of_lt' (hlt.trans (by decide)),
      Nat.mod_eq_of_lt hlt]

/-- The sum may wrap, which leaves nothing in common with the largest word. -/
lemma and_add_one_eq_zero_iff (w : UInt32) : w &&& (w + 1) = 0 ↔ ∃ b, w.toNat = 2 ^ b - 1 := by
  rw [← and_succ_eq_zero_iff, ← UInt32.toNat_inj, UInt32.toNat_and, UInt32.toNat_add,
    UInt32.toNat_one, UInt32.toNat_zero]
  by_cases hmax : w.toNat + 1 = 2 ^ 32
  · rw [hmax, Nat.mod_self, Nat.and_zero, Nat.eq_sub_of_add_eq hmax]
    decide
  · have hlt := w.toNat_lt
    rw [Nat.mod_eq_of_lt (by omega)]

/-- The bits of a mask are one run if and only if adding 1 carries through all of them. -/
lemma isRun_iff_and : m.IsRun ↔ m.lowered &&& (m.lowered + 1) = 0 := by
  rw [and_add_one_eq_zero_iff, toNat_lowered]
  constructor
  · intro h
    exact ⟨m.count, h.trans (largest_eq m)⟩
  · rintro ⟨b, hb⟩
    rw [Nat.shiftRight_eq_div_pow] at hb
    exact isRun_iff.2 ⟨b, m.shift, by rw [← hb, Nat.div_mul_cancel (two_pow_shift_dvd m)]⟩

/-- A mask fits if nothing is left of it below the bits of a pixel; there is room for every mask if
the pixel is as wide. -/
lemma fits_iff_shiftRight : m.Fits bits ↔ (bits < 32 → m >>> .ofNat bits = 0) := by
  have hlt := m.toNat_lt
  rw [fits_iff]
  by_cases hbits : bits < 32
  · rw [← UInt32.toNat_inj, UInt32.toNat_shiftRight,
      UInt32.toNat_ofNat_of_lt' (hbits.trans (by decide)), Nat.mod_eq_of_lt hbits,
      Nat.shiftRight_eq_div_pow, UInt32.toNat_zero, Nat.div_eq_zero_iff_lt (by positivity)]
    simp [hbits]
  · have hpow : 2 ^ 32 ≤ 2 ^ bits := Nat.pow_le_pow_right (by norm_num) (not_lt.1 hbits)
    simp only [hbits, false_implies, iff_true]
    exact hlt.trans_le hpow

/-- A mask does not fit if it has a bit beyond those of a pixel. -/
lemma not_fits_iff : ¬ m.Fits bits ↔ ∃ k, bits ≤ k ∧ m.toNat.testBit k = true := by
  rw [fits_iff, not_lt]
  constructor
  · exact Nat.exists_ge_and_testBit_of_ge_two_pow
  · rintro ⟨k, hk, hbit⟩
    by_contra hlt
    have hpow : 2 ^ bits ≤ 2 ^ k := Nat.pow_le_pow_right (by norm_num) hk
    rw [Nat.testBit_lt_two_pow (by omega)] at hbit
    cases hbit

/-- The fault of a mask, found on words. -/
def wordFault? (m : Mask) (bits : Nat) : Option Fault :=
  if bits < 32 ∧ m >>> .ofNat bits ≠ 0 then some .tooWide
  else if m.lowered &&& (m.lowered + 1) ≠ 0 then some .broken
  else none

lemma wordFault?_eq (m : Mask) (bits : Nat) : m.wordFault? bits = m.fault? bits := by
  rw [wordFault?, fault?]
  refine if_congr ?_ rfl (if_congr ?_ rfl rfl)
  · rw [fits_iff_shiftRight, Classical.not_imp]
  · rw [isRun_iff_and]

end Mask

/-! ## The masks of the channels -/

/-- A file with a pixel of 16 bits, whose header is followed by four masks. -/
def Image.maskedSample : Bytes :=
  [0x42, 0x4d, 74, 0, 0, 0, 0, 0, 0, 0, 70, 0, 0, 0,
   40, 0, 0, 0, 1, 0, 0, 0, 1, 0, 0, 0, 1, 0, 16, 0, 6, 0, 0, 0, 0, 0, 0, 0, 0, 0, 0, 0, 0, 0, 0, 0,
   0, 0, 0, 0, 0, 0, 0, 0,
   0x00, 0x7c, 0, 0, 0xe0, 0x03, 0, 0, 0x1f, 0, 0, 0, 0, 0, 0, 0,
   0x34, 0x12, 0, 0]

namespace ChannelMasks

variable {masks : ChannelMasks} {bits : Nat} {c : Channel} {fault : Mask.Fault}

/-- The masks, unless one of them has a fault; the first one is reported. -/
def validated (masks : ChannelMasks) (bits : Nat) : Except Error ChannelMasks :=
  match Channel.all.findSome? fun c => ((masks.get c).wordFault? bits).map (c, ·) with
  | some (c, fault) => .error (.invalidMask c (masks.get c) bits fault)
  | none => .ok masks

lemma validated_eq (masks : ChannelMasks) (bits : Nat) :
    masks.validated bits =
      match masks.fault? bits with
      | some (c, fault) => .error (.invalidMask c (masks.get c) bits fault)
      | none => .ok masks := by
  simp only [validated, fault?, Mask.wordFault?_eq]

/-- The reader validates the masks that it takes from a file. -/
lemma takeColors_eq_validated {h : InfoHeader} {d : Depth}
    (hstores : h.compression.storesMasks ∧ d.hasMasks) (extension : Bytes) (c : Cursor) :
    h.takeColors d extension c = h.takeMasks extension c >>= fun taken =>
      taken.1.validated d.bits >>= fun masks => .ok (.masks masks, taken.2) := by
  have hrgb : h.compression ≠ .rgb := by
    intro hrgb
    rw [hrgb] at hstores
    exact absurd hstores.1 (by decide)
  rw [InfoHeader.takeColors, if_neg hrgb, if_pos hstores]
  congr 1
  funext taken
  obtain ⟨masks, c⟩ := taken
  simp only [validated_eq]
  cases masks.fault? d.bits <;> rfl

lemma fault?_eq_none_iff : masks.fault? bits = none ↔ ∀ c, IsRunBelow bits (masks.get c).toNat := by
  simp only [fault?, List.findSome?_eq_none_iff, Option.map_eq_none_iff, Mask.fault?_eq_none_iff,
    Mask.isRunBelow_iff]
  exact ⟨fun h c => h c (Channel.mem_all c), fun h c _ => h c⟩

/-- The error of validation names a channel: its mask is not a run below the bits of the pixel, and
the masks before it are. -/
structure FirstFault (masks : ChannelMasks) (bits : Nat) (c : Channel) (e : Error) : Prop where
  before : ∃ before after, Channel.all = before ++ c :: after ∧
    ∀ d ∈ before, IsRunBelow bits (masks.get d).toNat
  not_run : ¬ IsRunBelow bits (masks.get c).toNat
  kind_eq : e.kind = .malformed
  of_beyond : (∃ k, bits ≤ k ∧ (masks.get c).toNat.testBit k = true) →
    e.message = s!"{c.name} channel mask {(masks.get c).text} exceeds {bits} bits per pixel"
  of_below : (¬ ∃ k, bits ≤ k ∧ (masks.get c).toNat.testBit k = true) →
    e.message = s!"{c.name} channel mask {(masks.get c).text} is not contiguous"

lemma firstFault_of_fault? (h : masks.fault? bits = some (c, fault)) :
    FirstFault masks bits c (.invalidMask c (masks.get c) bits fault) := by
  obtain ⟨before, d, after, hall, hd, hbefore⟩ := List.findSome?_eq_some_iff.1 h
  obtain ⟨fault', hfault, hpair⟩ := Option.map_eq_some_iff.1 hd
  obtain ⟨rfl, rfl⟩ := Prod.mk.inj hpair
  refine {
    before := ⟨before, after, hall, fun c hc => ?_⟩
    not_run := fun hrun => ?_
    kind_eq := rfl
    of_beyond := fun hbeyond => ?_
    of_below := fun hbelow => ?_ }
  · have hnone := Option.map_eq_none_iff.1 (hbefore c hc)
    exact Mask.isRunBelow_iff.2 (Mask.fault?_eq_none_iff.1 hnone)
  · rw [Mask.fault?_eq_none_iff.2 (Mask.isRunBelow_iff.1 hrun)] at hfault
    cases hfault
  · rw [Mask.fault?, if_pos (Mask.not_fits_iff.2 hbeyond)] at hfault
    obtain rfl := Option.some.inj hfault
    rfl
  · rw [Mask.fault?, if_neg (mt Mask.not_fits_iff.1 hbelow)] at hfault
    split at hfault
    · obtain rfl := Option.some.inj hfault
      rfl
    · cases hfault

/-- **Which masks are accepted.**  The check on words passes masks unchanged if and only if each is
a run of bits below the bits of a pixel, and otherwise reports the first channel whose mask is not.
It is the check that the reader makes; so the largest value of a channel of an image is its mask,
shifted down. -/
theorem validated_exact (masks : ChannelMasks) (bits : Nat) :
    (masks.validated bits = .ok masks ↔ ∀ c, IsRunBelow bits (masks.get c).toNat) ∧
    ((∃ c, ¬ IsRunBelow bits (masks.get c).toNat) →
      ∃ c e, masks.validated bits = .error e ∧ FirstFault masks bits c e) ∧
    (∀ (h : InfoHeader) (d : Depth) extension c, h.compression.storesMasks ∧ d.hasMasks →
      h.takeColors d extension c = h.takeMasks extension c >>= fun taken =>
        taken.1.validated d.bits >>= fun masks => .ok (.masks masks, taken.2)) ∧
    ∀ data i, (Image.read data).value = .ok i → ∀ c, let mask := i.masks.get c
      Machine.channel mask =
        .ok (if mask = 0 then none else some (mask.shift, mask.toNat >>> mask.shift)) := by
  refine ⟨?_, ?_, ?_, ?_⟩
  · rw [← fault?_eq_none_iff, validated_eq]
    cases masks.fault? bits <;> simp
  · intro hex
    rw [validated_eq]
    cases hfault : masks.fault? bits with
    | none =>
      obtain ⟨c, hc⟩ := hex
      exact absurd (fault?_eq_none_iff.1 hfault c) hc
    | some first =>
      obtain ⟨c, fault⟩ := first
      exact ⟨c, _, rfl, firstFault_of_fault? hfault⟩
  · intro h d extension c hstores
    exact takeColors_eq_validated hstores extension c
  · intro data i hread c mask
    obtain ⟨haccepts, rfl⟩ := Image.read_eq_ok_iff.1 hread
    have hrun : mask.IsRun := (Machine.parsed_image haccepts).masks_run c
    rw [Machine.channel_eq hrun, ← hrun]

/-- Of two masks that are not accepted at 16 bits, that of the first channel is reported. -/
def crookedMasks : ChannelMasks := ⟨0x00f800, 0x010000, 0x00f00f, 0⟩

theorem validated_exact_sample :
    (∃ c e, crookedMasks.validated 16 = .error e ∧ FirstFault crookedMasks 16 c e) ∧
      (Image.read Image.maskedSample).value = .ok (image Image.maskedSample) ∧
      Machine.channel ((image Image.maskedSample).masks.get .red) = .ok (some (10, 31)) := by
  have hgreen : ¬ IsRunBelow 16 (crookedMasks.get .green).toNat := by
    rw [Mask.isRunBelow_iff]
    decide
  obtain ⟨-, hfault, -, hchannel⟩ := validated_exact crookedMasks 16
  have hread : (Image.read Image.maskedSample).value = .ok (image Image.maskedSample) := rfl
  exact ⟨hfault ⟨.green, hgreen⟩, hread, hchannel _ _ hread .red⟩

end ChannelMasks

end Raster.Bmp
