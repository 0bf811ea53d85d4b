import Raster.Proofs.Resaving
import Raster.Proofs.Truncation
import Mathlib

/-!
# Torn writes

A sink that is too small for the file of a bitmap keeps the first bytes of it.  Such a part of a
file is never taken for an image, wherever the cut is: in a header, in the masks, in a row, or in
the zeros after the last row, where no pixel is missing (`Bitmap.writeTo_torn`).  The headers
declare the size of the whole file, and what has been read goes on to its declared size; so the part
is not read as the image of the whole, and no other verdict than a failure for want of bytes may
change when the rest of the file follows.
-/

namespace Raster

open Bmp Bmp.Format

/-! ## Sinks -/

namespace Sink

variable (capacity : Nat) (bytes : Bytes)

/-- An empty sink keeps the first bytes, as many as fit. -/
lemma written_write :
    ((ofCapacity capacity).write bytes).2.written = bytes.take (min capacity bytes.length) := by
  show [] ++ bytes.take capacity = _
  rw [List.nil_append]
  rcases le_total capacity bytes.length with hle | hle
  · rw [min_eq_left hle]
  · rw [min_eq_right hle, List.take_length, List.take_of_length_le hle]

lemma write_eq_ok_iff :
    ((ofCapacity capacity).write bytes).1 = .ok () ↔ bytes.length ≤ capacity := by
  show (if bytes.length ≤ capacity then Except.ok () else .error WriteFault.full) = .ok () ↔ _
  split <;> simp_all

/-- The only fault of a sink is that it is full. -/
lemma write_eq_error_iff {fault : WriteFault} :
    ((ofCapacity capacity).write bytes).1 = .error fault ↔
      capacity < bytes.length ∧ fault = .full := by
  show (if bytes.length ≤ capacity then Except.ok () else .error WriteFault.full) = _ ↔ _
  split
  · next hle => simp [hle]
  · next hlt => simp [Nat.lt_of_not_le hlt, eq_comm]

end Sink

/-! ## Parts of a file -/

namespace Bitmap

variable {b : Bitmap} {f : PixelFormat} {bytes : Bytes}

/-- A sink that has room for the file of a bitmap gets just this file. -/
theorem writeTo_eq_ok_iff {capacity : Nat} {s : Sink} :
    b.writeTo f (Sink.ofCapacity capacity) = (.ok (), s) ↔
      b.encode f = .ok s.written ∧ capacity = s.written.length + s.room := by
  rw [writeTo]
  cases hencode : b.encode f with
  | error e => simp
  | ok bytes =>
    dsimp only
    constructor
    · intro h
      have hroom : bytes.length ≤ capacity := by
        rw [← Sink.write_eq_ok_iff, h]
      have hwritten := Sink.written_write capacity bytes
      rw [h, min_eq_right hroom, List.take_length] at hwritten
      have hleft : capacity - bytes.length = s.room := congrArg (fun r => r.2.room) h
      rw [hwritten]
      exact ⟨rfl, by omega⟩
    · rintro ⟨hbytes, rfl⟩
      obtain rfl := Except.ok.inj hbytes
      rw [Sink.write, Sink.ofCapacity, if_pos (Nat.le_add_right _ _), Nat.add_sub_cancel_left,
        List.take_of_length_le (Nat.le_add_right _ _)]
      rfl

/-- The file of a bitmap ends where its headers say. -/
lemma fileEnd_file (h : f.Fits b.width b.height) :
    (b.file f).length ≤ (image (b.file f)).fileEnd := by
  obtain ⟨-, hsize, -⟩ := fileHeader_file h
  rw [Image.fileEnd_image (accepts_file h), hsize, length_file]
  exact le_max_left _ _

/-- A part of the file of a bitmap lacks bytes. -/
lemma provisional_read_take_file (h : f.Fits b.width b.height) {n : Nat}
    (hn : n < (b.file f).length) : Provisional (Image.read ((b.file f).take n)).value := by
  have hread := Image.read_eq_ok_iff.2 ⟨accepts_file h, rfl⟩
  rcases Image.read_append ((b.file f).take n) ((b.file f).drop n) with hprovisional | hsame
  · exact hprovisional
  · -- otherwise the part is read as the whole file is, which is longer
    exfalso
    rw [List.take_append_drop, hread] at hsame
    have hend := Image.fileEnd_le_length hsame.symm
    have hwhole := fileEnd_file h
    rw [List.length_take] at hend
    omega

/-- **Torn writes.**  A bitmap that can be encoded is written to a sink up to the capacity of the
sink, and the write fails with the fault of a full sink if and only if the file is longer.  Then
what was written is refused for want of bytes; otherwise it is read, within limits that admit the
bitmap, and gives back what the format keeps. -/
theorem writeTo_torn (h : b.encode f = .ok bytes) (capacity : Nat) :
    let r := b.writeTo f (Sink.ofCapacity capacity)
    r.2.written = bytes.take (min capacity bytes.length) ∧
      ((∃ fault, r.1 = .error fault ∧ fault.kindName = "WriteZero") ↔ capacity < bytes.length) ∧
      (r.1 = .ok () ↔ bytes.length ≤ capacity) ∧
      (capacity < bytes.length →
        ∃ e, (Image.read r.2.written).value = .error e ∧ e.kind = .truncated) ∧
      (bytes.length ≤ capacity → ∀ l : Limits, b.width ≤ l.maxWidth → b.height ≤ l.maxHeight →
        (decode l r.2.written).value = .ok (match f with
          | .bgr24 => b.withAlpha 0xff
          | .bgra32 => b)) := by
  intro r
  have hr : r = (Sink.ofCapacity capacity).write bytes := by
    show b.writeTo f (Sink.ofCapacity capacity) = _
    rw [writeTo, h]
  obtain ⟨hfits, rfl⟩ := encode_eq_ok_iff.1 h
  rw [hr, Sink.written_write]
  refine ⟨rfl, ?_, Sink.write_eq_ok_iff _ _, ?_, ?_⟩
  · constructor
    · rintro ⟨fault, hfault, -⟩
      exact ((Sink.write_eq_error_iff _ _).1 hfault).1
    · intro hlt
      exact ⟨.full, (Sink.write_eq_error_iff _ _).2 ⟨hlt, rfl⟩, rfl⟩
  · intro hlt
    rw [min_eq_left hlt.le]
    exact provisional_read_take_file hfits hlt
  · intro hle l hwidth hheight
    rw [min_eq_right hle, List.take_length, decode_file_of_le hfits hwidth hheight]
    cases f <;> rfl

/-- The file of the sample has 70 bytes, the last of which is padding.  A sink for 69 bytes holds
all the pixels, and what it holds is refused nevertheless. -/
theorem writeTo_torn_sample :
    sample.encode .bgr24 = .ok (sample.file .bgr24) ∧ (sample.file .bgr24).length = 70 ∧
      (∃ e, (Image.read (sample.writeTo .bgr24 (Sink.ofCapacity 69)).2.written).value = .error e ∧
        e.kind = .truncated) ∧
      (decode {} (sample.writeTo .bgr24 (Sink.ofCapacity 70)).2.written).value =
        .ok (sample.withAlpha 0xff) := by
  have hencode : sample.encode .bgr24 = .ok (sample.file .bgr24) := encode_of_fits (by decide)
  obtain ⟨-, -, -, htorn, -⟩ := writeTo_torn hencode 69
  obtain ⟨-, -, -, -, hwhole⟩ := writeTo_torn hencode 70
  exact ⟨hencode, rfl, htorn (by decide), hwhole (by decide) {} (by decide) (by decide)⟩

end Bitmap

end Raster
