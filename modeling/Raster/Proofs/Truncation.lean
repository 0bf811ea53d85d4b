import Raster.Proofs.Pixels
import Raster.Proofs.Prefixes
import Mathlib

/-!
# Files that are cut short

A bitmap file ends at its declared size or at the end of its pixel array, whichever comes later
(`Image.fileEnd`).  Cut anywhere before that place, in a header, the masks, the color table, the gap
before the pixel array or a row of it, the file is refused for want of bytes; cut there or later, it
holds the same image (`Image.read_take`).

The first part needs no search for the check that fails.  What is left of a file after a cut cannot
be refused for another reason, because that verdict would hold of the whole file too; and it is not
accepted either, because an accepted file is as long as its headers say.
-/

namespace Raster.Bmp

open LittleEndian Format

namespace Format

variable {data : Bytes} {n : Nat}

/-- A slice that ends before a cut. -/
lemma slice_take {offset count : Nat} (h : offset + count ≤ n) :
    slice (data.take n) offset count = slice data offset count := by
  rw [slice, slice, List.drop_take, List.take_take, Nat.min_eq_left (by omega)]

/-- A file that is cut at its end or later is a bitmap file.  Its headers are before the cut, since
they end where the pixel array starts or earlier. -/
lemma accepts_take (h : Accepts data) (hsize : fileSize data ≤ n)
    (hpixels : pixelOffset data + pixelBytes data ≤ n) : Accepts (data.take n) := by
  have hfields := h.fields_le
  have hoffset := h.headersEnd_le
  have hf : SameFields data (data.take n) :=
    .of_slices (slice_take (by omega)) fun _ => slice_take (by omega)
  have hmasks : masks (data.take n) = masks data := by
    refine hf.masks_eq fun hs => slice_take ?_
    have hle := (le_headersEnd data).2 hs
    rw [masksEnd_eq_add] at hle
    omega
  have hfileSizeBytes : slice (data.take n) 2 4 = slice data 2 4 := slice_take (by omega)
  have hfileSize : fileSize (data.take n) = fileSize data :=
    congrArg UInt32.toNat (u32At_congr hfileSizeBytes)
  refine hf.accepts h hmasks ?_ ?_ ?_
  · rw [List.take_take, Nat.min_eq_left (by omega)]
  · rw [hfileSize, List.length_take]
    exact le_min hsize h.fileSize_le
  · rw [List.length_take]
    exact le_min hpixels h.pixels_le

end Format

namespace Image

variable {data : Bytes} {i : Image}

/-- Where the file of an image ends: at the size that its header declares, or at the end of its
pixel array if that comes later. -/
def fileEnd (i : Image) : Nat :=
  max i.fileHeader.fileSize.toNat (i.fileHeader.pixelOffset.toNat + i.stride * i.height)

lemma fileEnd_image (h : Accepts data) :
    (image data).fileEnd = max (fileSize data) (pixelOffset data + pixelBytes data) := by
  have hheader : (image data).fileHeader = FileHeader.ofBytes (slice data 0 14) := rfl
  rw [fileEnd, stride_image h, height_image, hheader, fileHeader_slice]
  rfl

/-- A file that has been read goes on to its end. -/
lemma fileEnd_le_length (h : (read data).value = .ok i) : i.fileEnd ≤ data.length := by
  obtain ⟨haccepts, rfl⟩ := read_eq_ok_iff.1 h
  rw [fileEnd_image haccepts]
  exact max_le haccepts.fileSize_le haccepts.pixels_le

/-- **Files that are cut short.**  A file that has been read is as long as its headers say.  Cut
before that length, it is refused for want of bytes; cut there or later, it holds the same image. -/
theorem read_take (h : (read data).value = .ok i) :
    i.fileEnd ≤ data.length ∧
      (∀ n < i.fileEnd, Provisional (read (data.take n)).value) ∧
      ∀ n, i.fileEnd ≤ n → (read (data.take n)).value = .ok i := by
  refine ⟨fileEnd_le_length h, ?_, ?_⟩
  · intro n hn
    rcases read_append (data.take n) (data.drop n) with hprovisional | heq
    · exact hprovisional
    · -- otherwise the image is read before the cut, and ends there
      rw [List.take_append_drop, h] at heq
      have hle := fileEnd_le_length heq.symm
      rw [List.length_take] at hle
      omega
  · intro n hn
    obtain ⟨haccepts, rfl⟩ := read_eq_ok_iff.1 h
    rw [fileEnd_image haccepts, max_le_iff] at hn
    have hcut := accepts_take haccepts hn.1 hn.2
    have himage : image data = image (data.take n) := by
      conv_lhs => rw [← List.take_append_drop n data]
      exact image_append _ hcut
    rw [himage]
    exact read_eq_ok_iff.2 ⟨hcut, rfl⟩

/-- The sample file with a byte after its end, cut within its second row and at its end. -/
theorem read_take_sample :
    (read (sample ++ [170])).value = .ok (image (sample ++ [170])) ∧
      (image (sample ++ [170])).fileEnd = 74 ∧
      Provisional (read ((sample ++ [170]).take 70)).value ∧
      (read ((sample ++ [170]).take 74)).value = .ok (image (sample ++ [170])) := by
  have hread : (read (sample ++ [170])).value = .ok (image (sample ++ [170])) := rfl
  obtain ⟨-, hbefore, hafter⟩ := read_take hread
  exact ⟨hread, rfl, hbefore 70 (by decide), hafter 74 (by decide)⟩

end Image

end Raster.Bmp
