import Raster.Proofs.Fields
import Raster.Limits
import Mathlib

/-!
# Bytes followed by more bytes

A failure of kind `truncated` is *provisional*: it says that bytes are missing, and more of them can
turn it into anything.  All other outcomes are settled, whatever bytes follow (`Image.read_append`):
the checks of the longer data are those of the shorter up to the first that fails, apart from
bounds, which only get wider.

The converse holds too (`Image.exists_read_append_ne`).  The error of a bound that the file declares
names the number of bytes that are present, so one byte more changes it; and no header, no mask and
no color table ends beyond `2 ^ 35` bytes, so that with as many zeros behind it no data ends within
them.  So the outcomes that stay are just those that are not provisional, for the picture as for the
image (`Image.outcome_final_iff`).

The reader does not stop at the declared size of the file: it bounds the pixel array by the bytes
that are present.  So the bytes after the declared size are ignored if and only if the bytes before
it do not leave the outcome provisional (`Image.trailing_ignored_iff`).
-/

namespace Raster

open LittleEndian Bmp Bmp.Format

variable {α β : Type}

/-! ## Provisional and settled outcomes -/

/-- The outcome is a failure for want of bytes. -/
def Provisional (x : Except Error α) : Prop := ∃ e, x = .error e ∧ e.kind = .truncated

/-- The second outcome is the first, unless that is provisional. -/
def Settles (x y : Except Error α) : Prop := Provisional x ∨ y = x

namespace Settles

lemma refl (x : Except Error α) : Settles x x := Or.inr rfl

lemma of_eq {x y : Except Error α} (h : y = x) : Settles x y := Or.inr h

/-- What follows two computations settles if it does so after the first has succeeded. -/
lemma bind {x y : Except Error α} {f g : α → Except Error β} (h : Settles x y)
    (hfg : ∀ a, x = .ok a → Settles (f a) (g a)) : Settles (x >>= f) (y >>= g) := by
  obtain ⟨e, rfl, he⟩ | rfl := h
  · exact Or.inl ⟨e, rfl, he⟩
  · cases y with
    | error e => exact refl _
    | ok a => exact hfg a rfl

/-- A bound on what is present only gets wider, and its failure is provisional. -/
lemma bound {p q : Prop} {_ : Decidable p} {_ : Decidable q} {e e' : Error} (hpq : p → q)
    (he : e.kind = .truncated) : Settles (require p e) (require q e') := by
  by_cases hp : p
  · exact of_eq (by rw [require, if_pos (hpq hp), require, if_pos hp])
  · exact Or.inl ⟨e, require_eq_error_iff.2 ⟨hp, rfl⟩, he⟩

/-- A list of checks settles with its first check and the others. -/
lemma cons {c d : Check} {cs ds : List Check}
    (h : Settles (require c.condition c.error) (require d.condition d.error))
    (hrest : c.condition → Settles (verdict cs) (verdict ds)) :
    Settles (verdict (c :: cs)) (verdict (d :: ds)) := by
  rw [verdict_cons, verdict_cons]
  exact h.bind fun u hu => hrest (require_eq_ok_iff.1 hu)

/-- The same check first. -/
lemma cons_self {c : Check} {cs ds : List Check}
    (hrest : c.condition → Settles (verdict cs) (verdict ds)) :
    Settles (verdict (c :: cs)) (verdict (c :: ds)) :=
  (refl _).cons hrest

lemma append {cs cs' ds ds' : List Check} (h : Settles (verdict cs) (verdict ds))
    (hrest : (∀ c ∈ cs, c.condition) → Settles (verdict cs') (verdict ds')) :
    Settles (verdict (cs ++ cs')) (verdict (ds ++ ds')) := by
  rw [verdict_append, verdict_append]
  exact h.bind fun u hu => hrest (verdict_eq_ok_iff.1 hu)

end Settles

/-- The error of a verdict is that of a check that fails. -/
lemma exists_of_verdict_eq_error {cs : List Check} {e : Error} (h : verdict cs = .error e) :
    ∃ c ∈ cs, ¬ c.condition ∧ c.error = e := by
  induction cs with
  | nil => cases h
  | cons c cs ih =>
    rw [verdict_cons] at h
    by_cases hc : c.condition
    · rw [require_bind hc] at h
      obtain ⟨d, hd, hfail⟩ := ih h
      exact ⟨d, List.mem_cons_of_mem _ hd, hfail⟩
    · rw [require_bind_of_not hc] at h
      exact ⟨c, List.mem_cons_self, hc, Except.error.inj h⟩

/-! ## Fields of longer data -/

namespace Bmp.Format

variable {data : Bytes} {offset count : Nat} (rest : Bytes)

lemma slice_append_left (h : offset + count ≤ data.length) :
    slice (data ++ rest) offset count = slice data offset count := by
  rw [slice, List.drop_append_of_le_length (by omega), List.take_append_of_le_length]
  · rfl
  · rw [List.length_drop]
    omega

lemma u32At_append_left (h : offset + 4 ≤ data.length) :
    u32At (data ++ rest) offset = u32At data offset :=
  u32At_congr (slice_append_left rest h)

lemma fileSize_append (h : 14 ≤ data.length) : fileSize (data ++ rest) = fileSize data := by
  rw [fileSize, u32At_append_left rest (by omega), fileSize]

lemma headerSize_append (h : 18 ≤ data.length) :
    headerSize (data ++ rest) = headerSize data := by
  rw [headerSize, u32At_append_left rest (by omega), headerSize]

/-- The fields that describe the picture stand within the first 54 bytes. -/
lemma sameFields_append (h : 54 ≤ data.length) : SameFields data (data ++ rest) :=
  .of_slices (slice_append_left rest (by omega)) fun _ => slice_append_left rest (by omega)

/-- Masks that are stored within the data are those of longer data. -/
lemma masks_append (h : 54 ≤ data.length)
    (hmasks : scheme data ≠ 0 → masksEnd data ≤ data.length) :
    masks (data ++ rest) = masks data := by
  refine (sameFields_append rest h).masks_eq fun hs => slice_append_left rest ?_
  rw [← masksEnd_eq_add]
  exact hmasks hs

/-! ## Checks of longer data -/

lemma settles_fileHeaderChecks :
    Settles (verdict (fileHeaderChecks data)) (verdict (fileHeaderChecks (data ++ rest))) := by
  by_cases h2 : 2 ≤ data.length
  · have htake : (data ++ rest).take 2 = data.take 2 := List.take_append_of_le_length h2
    have hsignature : (2 ≤ (data ++ rest).length → data.take 2 = [0x42, 0x4d]) ↔
        (2 ≤ data.length → data.take 2 = [0x42, 0x4d]) := by
      simp [h2, Nat.le_add_right_of_le h2]
    simp only [fileHeaderChecks, htake, hsignature]
    refine Settles.cons_self fun _ => ?_
    refine (Settles.bound (by simp; omega) rfl).cons fun (h14 : 14 ≤ data.length) => ?_
    refine (Settles.bound ?_ rfl).cons fun _ => Settles.refl _
    rw [fileSize_append rest h14, List.length_append]
    omega
  · -- the signature of less than two bytes is not judged, and the header is missing
    refine Or.inl ⟨.endOfData, ?_, rfl⟩
    rw [fileHeaderChecks, verdict_cons, require_bind (fun h => absurd h h2), verdict_cons,
      require_bind_of_not (by omega)]

lemma settles_infoHeaderChecks :
    Settles (verdict (infoHeaderChecks data)) (verdict (infoHeaderChecks (data ++ rest))) := by
  refine (Settles.bound (by simp; omega) rfl).cons fun (h18 : 18 ≤ data.length) => ?_
  rw [headerSize_append rest h18]
  refine Settles.cons_self fun _ => Settles.cons_self fun _ => ?_
  exact (Settles.bound (by simp; omega) rfl).cons fun _ => Settles.refl _

lemma pictureChecks_append (h : 54 ≤ data.length) :
    pictureChecks (data ++ rest) = pictureChecks data := by
  have hf := sameFields_append rest h
  rw [pictureChecks, pictureChecks, hf.width_eq, hf.height_eq, hf.planes_eq, hf.depth_eq]

lemma settles_sourceChecks (h : 54 ≤ data.length) :
    Settles (verdict (sourceChecks data)) (verdict (sourceChecks (data ++ rest))) := by
  have hf := sameFields_append rest h
  rw [sourceChecks, sourceChecks, hf.scheme_eq, hf.depth_eq]
  by_cases hs : scheme data ≠ 0
  · rw [if_pos hs, if_pos hs, hf.masksEnd_eq]
    refine (Settles.bound (by simp; omega) rfl).cons
      fun (hend : masksEnd data ≤ data.length) => Settles.of_eq ?_
    have hmask : maskChecks (data ++ rest) = maskChecks data := by
      funext c
      rw [maskChecks, maskChecks, masks_append rest h fun _ => hend, hf.depth_eq]
    rw [hmask]
  · rw [if_neg hs, if_neg hs]
    split
    · next h8 =>
      rw [hf.colorsUsed_eq h8, hf.tableSize_eq h8, hf.headerSize_eq]
      refine Settles.cons_self fun _ => ?_
      exact (Settles.bound (by simp; omega) rfl).cons fun _ => Settles.refl _
    · exact Settles.refl _

lemma settles_colorChecks (h : 54 ≤ data.length) :
    Settles (verdict (colorChecks data)) (verdict (colorChecks (data ++ rest))) := by
  have hf := sameFields_append rest h
  rw [colorChecks, colorChecks, u32At_append_left rest (by omega : 30 + 4 ≤ data.length),
    hf.scheme_eq, hf.depth_eq]
  exact Settles.cons_self fun _ => settles_sourceChecks rest h

lemma settles_pixelChecks (h : 54 ≤ data.length) :
    Settles (verdict (pixelChecks data)) (verdict (pixelChecks (data ++ rest))) := by
  have hf := sameFields_append rest h
  rw [pixelChecks, pixelChecks, hf.headersEnd_eq, hf.pixelOffset_eq, hf.pixelBytes_eq]
  refine Settles.cons_self fun _ => ?_
  exact (Settles.bound (by simp; omega) rfl).cons fun _ => Settles.refl _

/-- More bytes change no verdict but a provisional one. -/
lemma settles_checks :
    Settles (verdict (checks data)) (verdict (checks (data ++ rest))) := by
  refine (settles_fileHeaderChecks rest).append fun _ => ?_
  refine (settles_infoHeaderChecks rest).append fun hinfo => ?_
  obtain ⟨hmem, hle⟩ := headerSize_of_infoHeaderChecks hinfo
  have hsize := le_of_mem_sizes hmem
  have h : 54 ≤ data.length := by omega
  rw [pictureChecks_append rest h]
  refine (Settles.refl _).append fun _ => ?_
  exact (settles_colorChecks rest h).append fun _ => settles_pixelChecks rest h

/-- A bitmap file holds the same image if more bytes follow. -/
lemma image_append (h : Accepts data) : image (data ++ rest) = image data := by
  have hsize := le_of_mem_sizes h.headerSize_mem
  have hle := h.header_le
  have h54 : 54 ≤ data.length := by omega
  have hf := sameFields_append rest h54
  have hsource : source (data ++ rest) = source data := by
    refine source_congr hf.depth_eq (masks_append rest h54 h.masks_le) fun h8 => ?_
    rw [table, table, hf.tableSize_eq h8, hf.headerSize_eq,
      slice_append_left rest (h.table_le h8)]
  rw [image, image, hsource, hf.sameShape.pixelDepth_eq, hf.pixelOffset_eq,
    hf.pixelBytes_eq, slice_append_left rest h.pixels_le,
    slice_append_left rest (by omega : 0 + 14 ≤ data.length),
    slice_append_left rest (by omega : 14 + 40 ≤ data.length)]

/-! ## Provisional failures -/

/-- What a check for want of bytes is like: it asks for a header, masks or a color table, which end
below `2 ^ 35` whatever the fields say, or its error names the number of bytes that are present. -/
lemma truncated_of_mem_checks {c : Check} (hc : c ∈ checks data)
    (hkind : c.error.kind = .truncated) :
    c.error = .endOfData ∧ (2 ^ 35 ≤ data.length → c.condition) ∨
      (∃ declared, c.error = .missingBytes declared data.length) ∨
      ∃ length offset, c.error = .missingPixels length offset data.length := by
  have hsize : headerSize data < 2 ^ 32 := UInt32.toNat_lt _
  have hcolors : colorsUsed data < 2 ^ 32 := UInt32.toNat_lt _
  have hend : masksEnd data ≤ 70 := by
    rw [masksEnd]
    split <;> omega
  simp only [checks, List.mem_append] at hc
  rcases hc with hc | hc | hc | hc | hc
  · simp only [fileHeaderChecks, List.mem_cons, List.not_mem_nil, or_false] at hc
    rcases hc with rfl | rfl | rfl
    · cases hkind
    · exact Or.inl ⟨rfl, fun h => by dsimp only; omega⟩
    · exact Or.inr (Or.inl ⟨_, rfl⟩)
  · simp only [infoHeaderChecks, List.mem_cons, List.not_mem_nil, or_false] at hc
    rcases hc with rfl | rfl | rfl | rfl
    · exact Or.inl ⟨rfl, fun h => by dsimp only; omega⟩
    · cases hkind
    · cases hkind
    · exact Or.inl ⟨rfl, fun h => by dsimp only; omega⟩
  · simp only [pictureChecks, List.mem_cons, List.not_mem_nil, or_false] at hc
    rcases hc with rfl | rfl | rfl | rfl <;> cases hkind
  · rw [colorChecks, List.mem_cons] at hc
    rcases hc with rfl | hc
    · cases hkind
    · rw [sourceChecks] at hc
      split at hc
      · rcases List.mem_cons.1 hc with rfl | hc
        · exact Or.inl ⟨rfl, fun h => by dsimp only; omega⟩
        · obtain ⟨channel, -, hc⟩ := List.mem_flatMap.1 hc
          simp only [maskChecks, List.mem_cons, List.not_mem_nil, or_false] at hc
          rcases hc with rfl | rfl <;> cases hkind
      · split at hc
        · next h8 =>
          have htable : tableSize data < 2 ^ 32 := by
            have hpow : 2 ^ depth data ≤ 2 ^ 8 := Nat.pow_le_pow_right (by decide) h8
            rw [tableSize]
            split <;> omega
          simp only [List.mem_cons, List.not_mem_nil, or_false] at hc
          rcases hc with rfl | rfl
          · cases hkind
          · exact Or.inl ⟨rfl, fun h => by dsimp only; omega⟩
        · cases hc
  · simp only [pixelChecks, List.mem_cons, List.not_mem_nil, or_false] at hc
    rcases hc with rfl | rfl
    · cases hkind
    · exact Or.inr (Or.inr ⟨_, _, rfl⟩)

end Bmp.Format

namespace Bmp.Image

variable {data : Bytes}

/-- **Only failures for want of bytes are provisional.**  Any other outcome of reading stays as it
is when more bytes follow. -/
theorem read_append (data rest : Bytes) :
    Settles (read data).value (read (data ++ rest)).value := by
  have hchecks : Settles (verdict (checks data)) (verdict (checks (data ++ rest))) :=
    settles_checks rest
  rw [value_read, value_read]
  obtain ⟨e, he, hkind⟩ | heq := hchecks
  · exact Or.inl ⟨e, by rw [he]; rfl, hkind⟩
  · refine Settles.of_eq ?_
    rw [heq]
    cases hv : verdict (checks data) with
    | error e => rfl
    | ok u =>
      have haccepts := accepts_iff.2 (verdict_eq_ok_iff.1 hv)
      rw [image_append rest haccepts]

/-- The error of reading is that of a check that fails. -/
lemma exists_of_read_eq_error {e : Error} (h : (read data).value = .error e) :
    ∃ c ∈ checks data, ¬ c.condition ∧ c.error = e := by
  have hverdict : verdict (checks data) = .error e := by
    rw [value_read] at h
    cases hv : verdict (checks data) with
    | error e' =>
      rw [hv] at h
      rw [Except.error.inj h]
    | ok u =>
      rw [hv] at h
      cases h
  exact exists_of_verdict_eq_error hverdict

lemma truncated_of_read {e : Error} (h : (read data).value = .error e)
    (hkind : e.kind = .truncated) :
    e = .endOfData ∧ data.length < 2 ^ 35 ∨ (∃ declared, e = .missingBytes declared data.length) ∨
      ∃ length offset, e = .missingPixels length offset data.length := by
  obtain ⟨c, hc, hfail, rfl⟩ := exists_of_read_eq_error h
  rcases truncated_of_mem_checks hc hkind with ⟨he, hholds⟩ | h
  · exact Or.inl ⟨he, Nat.lt_of_not_le fun hle => hfail (hholds hle)⟩
  · exact Or.inr h

/-- A provisional failure is not final: enough zeros after the data give another outcome. -/
theorem exists_read_append_ne (h : Provisional (read data).value) :
    ∃ rest, (read (data ++ rest)).value ≠ (read data).value := by
  obtain ⟨e, he, hkind⟩ := h
  refine ⟨List.replicate (2 ^ 35) 0, fun heq => ?_⟩
  have hlong := truncated_of_read (heq.trans he) hkind
  rw [List.length_append, List.length_replicate] at hlong
  rcases truncated_of_read he hkind with ⟨rfl, -⟩ | ⟨declared, rfl⟩ | ⟨length, offset, rfl⟩ <;>
    simp at hlong

/-! ## Pictures of longer data -/

/-- A bitmap is refused because of its dimensions or the number of its bytes. -/
lemma kind_of_ofPixels_eq_error {width height : Nat} {pixels : Bytes} {e : Error}
    (h : Bitmap.ofPixels width height pixels = .error e) : e.kind = .malformed := by
  rw [Bitmap.ofPixels] at h
  split_ifs at h <;> obtain rfl := Except.error.inj h <;> rfl

/-- A number has no color only if it is an index that the color table does not have. -/
lemma kind_of_color_eq_error {s : ColorSource} {n : Nat} {e : Error} (h : s.color n = .error e) :
    e.kind = .malformed := by
  cases s with
  | table entries =>
    rw [ColorSource.color, ColorTable.color] at h
    split at h
    · cases h
    · obtain rfl := Except.error.inj h
      rfl
  | direct => cases h
  | masks m => cases h

/-- An image without a picture is malformed; it does not lack bytes. -/
lemma kind_of_bitmap_eq_error {i : Image} {e : Error} (h : i.bitmap = .error e) :
    e.kind = .malformed := by
  rw [bitmap] at h
  cases hcolors : i.colors with
  | error e' =>
    rw [hcolors] at h
    obtain rfl := Except.error.inj h
    obtain ⟨n, -, hn⟩ := exists_of_mapM_eq_error hcolors
    exact kind_of_color_eq_error hn
  | ok colors =>
    rw [hcolors, ok_bind] at h
    exact kind_of_ofPixels_eq_error h

/-- Once a file has been read, nothing fails for want of bytes. -/
lemma provisional_decode_iff {l : Limits} :
    Provisional (Bitmap.decode l data).value ↔ Provisional (read data).value := by
  rw [Bitmap.value_decode]
  constructor
  · rintro ⟨e, he, hkind⟩
    cases hread : (read data).value with
    | error e' =>
      rw [hread] at he
      exact ⟨e', rfl, Except.error.inj he ▸ hkind⟩
    | ok i =>
      exfalso
      rw [hread, ok_bind, Limits.checkDimensions] at he
      by_cases hlimits : i.width ≤ l.maxWidth ∧ i.height ≤ l.maxHeight
      · rw [require_bind hlimits] at he
        rw [kind_of_bitmap_eq_error he] at hkind
        cases hkind
      · rw [require_bind_of_not hlimits] at he
        obtain rfl := Except.error.inj he
        cases hkind
  · rintro ⟨e, he, hkind⟩
    exact ⟨e, by rw [he]; rfl, hkind⟩

/-- Other data for which decoding lacks the same bytes lack them for reading. -/
lemma read_eq_of_decode_eq {l : Limits} {data' : Bytes} (h : Provisional (read data).value)
    (heq : (Bitmap.decode l data').value = (Bitmap.decode l data).value) :
    (read data').value = (read data).value := by
  obtain ⟨e, he, hkind⟩ := h
  have hdecode : (Bitmap.decode l data').value = .error e := by
    rw [heq, Bitmap.value_decode, he]
    rfl
  obtain ⟨e', he', -⟩ := provisional_decode_iff.1 ⟨e, hdecode, hkind⟩
  rw [Bitmap.value_decode, he'] at hdecode
  rw [he, he', Except.error.inj hdecode]

/-- **Which outcomes are final.**  The outcome of reading some bytes stays as it is, whatever bytes
follow them, if and only if it is not a failure for want of bytes.  The same holds of the picture
within any limits. -/
theorem outcome_final_iff (data : Bytes) :
    ((∀ rest, (read (data ++ rest)).value = (read data).value) ↔
        ¬ Provisional (read data).value) ∧
      ∀ limits, (∀ rest, (Bitmap.decode limits (data ++ rest)).value =
          (Bitmap.decode limits data).value) ↔
        ¬ Provisional (Bitmap.decode limits data).value := by
  have hread : ¬ Provisional (read data).value →
      ∀ rest, (read (data ++ rest)).value = (read data).value := by
    intro hsettled rest
    obtain hprovisional | heq := read_append data rest
    · exact absurd hprovisional hsettled
    · exact heq
  constructor
  · refine ⟨fun hfinal hprovisional => ?_, hread⟩
    obtain ⟨rest, hne⟩ := exists_read_append_ne hprovisional
    exact hne (hfinal rest)
  · intro limits
    rw [provisional_decode_iff]
    constructor
    · intro hfinal hprovisional
      obtain ⟨rest, hne⟩ := exists_read_append_ne hprovisional
      exact hne (read_eq_of_decode_eq hprovisional (hfinal rest))
    · intro hsettled rest
      rw [Bitmap.value_decode, Bitmap.value_decode, hread hsettled rest]

/-! ## Bytes after the declared size -/

/-- Two byte strings hold the same image and, within any limits, the same picture, or they fail to
with the same error. -/
def SameOutcome (data data' : Bytes) : Prop :=
  (read data).value = (read data').value ∧
    ∀ limits, (Bitmap.decode limits data).value = (Bitmap.decode limits data').value

/-- The picture depends on the image alone. -/
lemma sameOutcome_iff {data data' : Bytes} :
    SameOutcome data data' ↔ (read data).value = (read data').value := by
  refine ⟨fun h => h.1, fun h => ⟨h, fun limits => ?_⟩⟩
  rw [Bitmap.decode, Bitmap.decode, Logged.value_map, Logged.value_map, h]

/-- **When bytes after the declared size are ignored.**  All data with the same bytes up to the
declared size have the outcome of these bytes if and only if that is not provisional: the declared
size has to cover all that the headers announce, unless the file is refused for another reason. -/
theorem trailing_ignored_iff (hle : fileSize data ≤ data.length) :
    (∀ data' : Bytes, fileSize data ≤ data'.length →
        data'.take (fileSize data) = data.take (fileSize data) →
        SameOutcome data' (data.take (fileSize data))) ↔
      ¬ Provisional (read (data.take (fileSize data))).value := by
  constructor
  · intro hsame hprovisional
    obtain ⟨rest, hne⟩ := exists_read_append_ne hprovisional
    have hlength : (data.take (fileSize data)).length = fileSize data :=
      List.length_take_of_le hle
    apply hne
    refine (hsame (data.take (fileSize data) ++ rest) ?_ ?_).1
    · rw [List.length_append, hlength]
      exact Nat.le_add_right _ _
    · rw [List.take_append_of_le_length hlength.ge, List.take_take, Nat.min_self]
  · intro hsettled data' _ htake
    obtain hprovisional | heq :=
      read_append (data.take (fileSize data)) (data'.drop (fileSize data))
    · exact absurd hprovisional hsettled
    · rw [← htake, List.take_append_drop, htake] at heq
      exact sameOutcome_iff.2 heq

/-- The sample file with three more bytes, which its declared size leaves out. -/
theorem trailing_ignored_sample :
    fileSize (sample ++ [170, 170, 170]) = 74 ∧
      ∀ data' : Bytes, 74 ≤ data'.length → data'.take 74 = sample → SameOutcome data' sample :=
  ⟨rfl, (trailing_ignored_iff (show fileSize (sample ++ [170, 170, 170]) ≤ 77 by decide)).2
    fun ⟨_, he, _⟩ => nomatch he⟩

/-- The sample file, declared to end within its pixel array, after the first of two rows. -/
def overrun : Bytes := sample.set 2 70

/-- The bytes after the declared size are read as pixels: without them there is no image, and with
other bytes in their place there is another picture. -/
theorem overrun_uses_trailing :
    fileSize overrun = 70 ∧ 70 < overrun.length ∧
      ¬ SameOutcome overrun (overrun.take 70) ∧
      (overrun.set 70 0x01).take 70 = overrun.take 70 ∧
      ¬ SameOutcome (overrun.set 70 0x01) overrun := by
  have hprefix : (read (overrun.take 70)).value = .error (.missingPixels 8 66 70) := rfl
  have himage : (read overrun).value = .ok (image overrun) := rfl
  have hother : (read (overrun.set 70 0x01)).value = .ok (image (overrun.set 70 0x01)) := rfl
  refine ⟨rfl, by decide, fun h => ?_, rfl, fun h => ?_⟩
  · rw [sameOutcome_iff, hprefix, himage] at h
    cases h
  · -- both are images, with other bytes in the second row
    rw [sameOutcome_iff, himage, hother] at h
    exact absurd (congrArg Image.pixelData (Except.ok.inj h)) (by decide)

end Bmp.Image

end Raster
