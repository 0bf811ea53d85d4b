import Raster.Loader
import Raster.Proofs.Files
import Raster.Proofs.GuardedReading
import Raster.Proofs.Loading
import Raster.Proofs.Pixels
import Raster.Proofs.Prefixes
import Mathlib

/-!
# Limits only gate

Limits are asked for twice on the way from a path to a bitmap: for the size of what the path names,
before its content is read, and for the dimensions of an image, before its pixels are given colors.
`Loader.read_eq` and `Bitmap.decode_eq` tell each stage on its own.  Nothing else depends on them:
where a stage is passed, what follows is what it would be without limits, and the errors of the
reader and of the colors are never those of a limit (`Image.not_isLimit_of_read`,
`Image.not_isLimit_of_bitmap`).

So a wider pair of limits can only turn a rejection by a limit into something else
(`Loader.read_limited`).
-/

namespace Raster

open Bmp Bmp.Format

/-! ## Limits and what they reject -/

/-- The error is that of a limit that is exceeded. -/
def Error.IsLimit : Error → Prop
  | dimensionLimit .. | sizeLimit .. => True
  | _ => False

namespace Limits

variable {l l' : Limits} {width height : Nat}

/-- Limits are compared one by one. -/
instance : LE Limits where
  le l l' :=
    l.maxWidth ≤ l'.maxWidth ∧ l.maxHeight ≤ l'.maxHeight ∧ l.maxFileSize ≤ l'.maxFileSize

/-- A picture of these dimensions is within the limits. -/
def Admits (l : Limits) (width height : Nat) : Prop := width ≤ l.maxWidth ∧ height ≤ l.maxHeight

instance : Decidable (l.Admits width height) := inferInstanceAs (Decidable (_ ∧ _))

/-- The largest limits that can be asked for: dimensions are words of 32 bits, and sizes words of
64. -/
def unlimited : Limits := ⟨2 ^ 32 - 1, 2 ^ 32 - 1, 2 ^ 64 - 1⟩

lemma Admits.mono (hle : l ≤ l') (h : l.Admits width height) : l'.Admits width height := by
  obtain ⟨hwidth, hheight⟩ := h
  obtain ⟨hwidths, hheights, -⟩ := hle
  exact ⟨hwidth.trans hwidths, hheight.trans hheights⟩

/-- No image has more columns or rows. -/
lemma unlimited_admits (i : Image) : unlimited.Admits i.width i.height := by
  have hwidth : i.width ≤ 2 ^ 31 := Machine.natAbs_le i.infoHeader.width
  have hheight : i.height ≤ 2 ^ 31 := Machine.natAbs_le i.infoHeader.height
  exact ⟨hwidth.trans (by decide), hheight.trans (by decide)⟩

end Limits

/-! ## Errors that are not those of a limit -/

namespace Bmp

variable {data : Bytes}

lemma Format.not_isLimit_of_mem_checks {c : Check} (hc : c ∈ checks data) : ¬ c.error.IsLimit := by
  simp only [checks, List.mem_append] at hc
  rcases hc with hc | hc | hc | hc | hc
  · simp only [fileHeaderChecks, List.mem_cons, List.not_mem_nil, or_false] at hc
    rcases hc with rfl | rfl | rfl <;> exact id
  · simp only [infoHeaderChecks, List.mem_cons, List.not_mem_nil, or_false] at hc
    rcases hc with rfl | rfl | rfl | rfl <;> exact id
  · simp only [pictureChecks, List.mem_cons, List.not_mem_nil, or_false] at hc
    rcases hc with rfl | rfl | rfl | rfl <;> exact id
  · rw [colorChecks, List.mem_cons] at hc
    rcases hc with rfl | hc
    · exact id
    · rw [sourceChecks] at hc
      split at hc
      · rcases List.mem_cons.1 hc with rfl | hc
        · exact id
        · obtain ⟨channel, -, hc⟩ := List.mem_flatMap.1 hc
          simp only [maskChecks, List.mem_cons, List.not_mem_nil, or_false] at hc
          rcases hc with rfl | rfl <;> exact id
      · split at hc
        · simp only [List.mem_cons, List.not_mem_nil, or_false] at hc
          rcases hc with rfl | rfl <;> exact id
        · cases hc
  · simp only [pixelChecks, List.mem_cons, List.not_mem_nil, or_false] at hc
    rcases hc with rfl | rfl <;> exact id

namespace Image

variable {i : Image} {e : Error}

lemma not_isLimit_of_read (h : (read data).value = .error e) : ¬ e.IsLimit := by
  obtain ⟨c, hc, -, rfl⟩ := exists_of_read_eq_error h
  exact not_isLimit_of_mem_checks hc

lemma not_isLimit_of_bitmap (h : i.bitmap = .error e) : ¬ e.IsLimit := by
  have hkind := kind_of_bitmap_eq_error h
  cases e <;> first | exact id | cases hkind

end Image

end Bmp

/-! ## Decoding within limits -/

namespace Bitmap

variable {l : Limits} {data : Bytes} {i : Image}

/-- The picture of an image that has been read is judged by its dimensions first. -/
lemma decode_eq (hread : (Image.read data).value = .ok i) :
    (decode l data).value =
      if l.Admits i.width i.height then i.bitmap
      else .error (.dimensionLimit i.width i.height l.maxWidth l.maxHeight) := by
  rw [value_decode, hread, ok_bind, Limits.checkDimensions]
  split
  · next hadmits => exact require_bind hadmits
  · next hadmits => exact require_bind_of_not hadmits

lemma decode_of_error {e : Error} (hread : (Image.read data).value = .error e) :
    (decode l data).value = .error e := by
  rw [value_decode, hread, error_bind]

/-- What exceeds the limits is rejected, even if its pixels have faults of their own. -/
lemma decode_of_not_admits (hread : (Image.read data).value = .ok i)
    (h : ¬ l.Admits i.width i.height) :
    (decode l data).value = .error (.dimensionLimit i.width i.height l.maxWidth l.maxHeight) := by
  rw [decode_eq hread, if_neg h]

/-- Without limits there is only the reader, and then the colors. -/
lemma value_decode_unlimited (data : Bytes) :
    (decode .unlimited data).value = (Image.read data).value >>= Image.bitmap := by
  cases hread : (Image.read data).value with
  | error e => rw [decode_of_error hread, error_bind]
  | ok i =>
    rw [decode_eq hread, if_pos (Limits.unlimited_admits i), ok_bind]

/-- What does not exceed the limits is decoded as without them. -/
lemma decode_eq_unlimited (h : ∀ i, (Image.read data).value = .ok i → l.Admits i.width i.height) :
    decode l data = decode .unlimited data := by
  have hvalue : (decode l data).value = (decode .unlimited data).value := by
    rw [value_decode_unlimited]
    cases hread : (Image.read data).value with
    | error e => rw [decode_of_error hread, error_bind]
    | ok i =>
    rw [decode_eq hread, if_pos (h i hread), ok_bind]
  -- the notices are those of the reader in either case
  rw [decode, decode, Logged.map, Logged.map]
  exact congrArg (Logged.mk · (Image.read data).log) hvalue

/-- Decoding meets a limit exactly if there is an image that exceeds it. -/
lemma isLimit_decode_iff :
    (∃ e, (decode l data).value = .error e ∧ e.IsLimit) ↔
      ∃ i, (Image.read data).value = .ok i ∧ ¬ l.Admits i.width i.height := by
  constructor
  · rintro ⟨e, he, hlimit⟩
    cases hread : (Image.read data).value with
    | error e' =>
      rw [decode_of_error hread] at he
      obtain rfl := Except.error.inj he
      exact absurd hlimit (Image.not_isLimit_of_read hread)
    | ok i =>
      refine ⟨i, rfl, fun hadmits => ?_⟩
      rw [decode_eq hread, if_pos hadmits] at he
      exact Image.not_isLimit_of_bitmap he hlimit
  · rintro ⟨i, hread, hadmits⟩
    exact ⟨_, decode_of_not_admits hread hadmits, trivial⟩

/-- A picture within limits has the dimensions of its image, which they admit. -/
lemma admits_of_decode {b : Bitmap} (h : (decode l data).value = .ok b) :
    l.Admits b.width b.height := by
  cases hread : (Image.read data).value with
  | error e =>
    rw [decode_of_error hread] at h
    cases h
  | ok i =>
    rw [decode_eq hread] at h
    split at h
    · next hadmits =>
      obtain ⟨-, -, hwidth, hheight, -⟩ := Image.bitmap_eq_ok_iff.1 h
      rw [hwidth, hheight]
      exact hadmits
    · cases h

end Bitmap

/-! ## Reading within limits -/

namespace Loader

variable {l l' : Loader} {t : FileTree} {path : String}

/-- Reading asks what the path names, then for its size, and only then for its content. -/
lemma read_eq (l : Loader) (t : FileTree) (path : String) :
    l.read t path =
      match t.stat path with
      | .error fault => ⟨.error (.unreadable path fault), []⟩
      | .ok node =>
        if t.size node ≤ l.limits.maxFileSize then
          match node with
          | .file data => Bitmap.decode l.limits data
          | .directory => ⟨.error (.unreadable path .isADirectory), []⟩
        else ⟨.error (.sizeLimit (t.size node) l.limits.maxFileSize), []⟩ := by
  cases hstat : t.stat path with
  | error fault =>
    rw [read, readFile, hstat]
    rfl
  | ok node =>
    have hfile : l.readFile t path = l.limits.checkFileSize (t.size node) >>= fun _ =>
        (t.read path).mapError (.unreadable path) := by
      rw [readFile, hstat]
      rfl
    rw [read, hfile, Limits.checkFileSize]
    dsimp only
    by_cases hsize : t.size node ≤ l.limits.maxFileSize
    · rw [require_bind hsize, if_pos hsize, FileTree.read, hstat]
      cases node <;> rfl
    · rw [require_bind_of_not hsize, if_neg hsize]

/-- A bitmap that was read is that of a file within the limits. -/
lemma exists_of_read_eq_ok {b : Bitmap} (h : (l.read t path).value = .ok b) :
    ∃ data, t.stat path = .ok (.file data) ∧ data.length ≤ l.limits.maxFileSize ∧
      (Bitmap.decode l.limits data).value = .ok b := by
  rw [read_eq] at h
  cases hstat : t.stat path with
  | error fault =>
    rw [hstat] at h
    cases h
  | ok node =>
    rw [hstat] at h
    dsimp only at h
    split at h
    · next hsize =>
      cases node with
      | file data => exact ⟨data, rfl, hsize, h⟩
      | directory => cases h
    · cases h

/-- Wider limits change nothing but a rejection by a limit. -/
lemma read_eq_of_le (hle : l.limits ≤ l'.limits)
    (h : ∀ e, (l.read t path).value = .error e → ¬ e.IsLimit) :
    l'.read t path = l.read t path := by
  rw [read_eq] at h ⊢
  rw [read_eq]
  cases hstat : t.stat path with
  | error fault => rfl
  | ok node =>
    rw [hstat] at h
    dsimp only at h ⊢
    by_cases hsize : t.size node ≤ l.limits.maxFileSize
    · rw [if_pos hsize] at h ⊢
      rw [if_pos (hsize.trans hle.2.2)]
      cases node with
      | directory => rfl
      | file data =>
        have hadmits : ∀ i, (Image.read data).value = .ok i →
            l.limits.Admits i.width i.height := by
          intro i hread
          by_contra hnot
          exact h _ (Bitmap.decode_of_not_admits hread hnot) trivial
        dsimp only
        rw [Bitmap.decode_eq_unlimited hadmits,
          Bitmap.decode_eq_unlimited fun i hread => (hadmits i hread).mono hle]
    · rw [if_neg hsize] at h
      exact absurd trivial (h _ rfl)

/-- **Limits only gate.**  A bitmap that is read under some limits has dimensions that they admit
and comes from a file of a size that they admit.  Unless the outcome is that a limit is exceeded,
wider limits give the same outcome.  Decoding some bytes meets a limit exactly if they hold an image
whose dimensions exceed it, and says so whatever its pixels are; otherwise it goes as without
limits, which is the reading of the image followed by that of its colors.  The largest size of a
file plays no part in that. -/
theorem read_limited (t : FileTree) (path : String) {l l' : Loader} (hle : l.limits ≤ l'.limits) :
    (∀ b, (l.read t path).value = .ok b →
      b.width ≤ l.limits.maxWidth ∧ b.height ≤ l.limits.maxHeight ∧
        ∃ data, t.read path = .ok data ∧ data.length ≤ l.limits.maxFileSize ∧
          (Bitmap.decode l.limits data).value = .ok b) ∧
    ((∀ e, (l.read t path).value = .error e → ¬ e.IsLimit) →
      l'.read t path = l.read t path) ∧
    ∀ data,
      ((∃ e, (Bitmap.decode l.limits data).value = .error e ∧ e.IsLimit) ↔
        ∃ i, (Image.read data).value = .ok i ∧ ¬ l.limits.Admits i.width i.height) ∧
      (∀ i, (Image.read data).value = .ok i → ¬ l.limits.Admits i.width i.height →
        (Bitmap.decode l.limits data).value = .error
          (.dimensionLimit i.width i.height l.limits.maxWidth l.limits.maxHeight)) ∧
      ((∀ i, (Image.read data).value = .ok i → l.limits.Admits i.width i.height) →
        Bitmap.decode l.limits data = Bitmap.decode .unlimited data) ∧
      (Bitmap.decode .unlimited data).value = (Image.read data).value >>= Image.bitmap ∧
      ∀ size, Bitmap.decode { l.limits with maxFileSize := size } data =
        Bitmap.decode l.limits data := by
  refine ⟨?_, read_eq_of_le hle, fun data => ⟨Bitmap.isLimit_decode_iff, ?_,
    Bitmap.decode_eq_unlimited, Bitmap.value_decode_unlimited data, fun _ => rfl⟩⟩
  · intro b hb
    obtain ⟨data, hstat, hsize, hdecode⟩ := exists_of_read_eq_ok hb
    obtain ⟨hwidth, hheight⟩ := Bitmap.admits_of_decode hdecode
    exact ⟨hwidth, hheight, data, FileTree.read_of_stat hstat, hsize, hdecode⟩
  · intro i hread hnot
    exact Bitmap.decode_of_not_admits hread hnot

/-- The sample file with the second index 3, which its table does not have. -/
def faulty : Bytes := Image.sample.set 66 0x03

/-- Limits that are just met by the sample file. -/
def tight : Loader := ⟨⟨3, 2, 74⟩⟩

/-- The sample file is read within limits that it just meets, and so within the usual ones.  With a
faulty index it fails because of that in either case, but under a limit of two columns it is the
limit that is reported. -/
theorem read_limited_sample :
    tight.limits ≤ ({} : Loader).limits ∧
      ({} : Loader).read sampleFiles "a" = tight.read sampleFiles "a" ∧
      (∃ b, (tight.read sampleFiles "a").value = .ok b ∧ b.width ≤ 3 ∧ b.height ≤ 2) ∧
      (Bitmap.decode .unlimited faulty).value = .error (.indexOutOfRange 3 3) ∧
      Bitmap.decode tight.limits faulty = Bitmap.decode .unlimited faulty ∧
      (Bitmap.decode ⟨2, 2, 74⟩ faulty).value = .error (.dimensionLimit 3 2 2 2) := by
  have hle : tight.limits ≤ ({} : Loader).limits := ⟨by decide, by decide, by decide⟩
  have hok : (tight.read sampleFiles "a").value.isOk = true := by cbv
  have hfaulty : (Image.read faulty).value = .ok (image faulty) := rfl
  obtain ⟨hgate, hmono, hdecode⟩ := read_limited sampleFiles "a" hle
  refine ⟨hle, hmono fun e he => ?_, ?_, ?_, ?_, ?_⟩
  · rw [he] at hok
    cases hok
  · cases hb : (tight.read sampleFiles "a").value with
    | error e =>
      rw [hb] at hok
      cases hok
    | ok b =>
      obtain ⟨hwidth, hheight, -⟩ := hgate b hb
      exact ⟨b, rfl, hwidth, hheight⟩
  · cbv
  · refine (hdecode faulty).2.2.1 fun i hi => ?_
    obtain rfl := Except.ok.inj (hfaulty.symm.trans hi)
    decide
  · have hle' : (⟨⟨2, 2, 74⟩⟩ : Loader).limits ≤ ({} : Loader).limits :=
      ⟨by decide, by decide, by decide⟩
    exact ((read_limited sampleFiles "a" hle').2.2 faulty).2.1 _ hfaulty (by decide)

end Loader

end Raster
