import Raster.Limits
import Raster.Proofs.Pixels
import Mathlib

/-!
# What is told of a file

The reader gives notices on its way through a file, so what has been told when a file is refused
depends on how far the reader got.  `Format.announcements` lists what there can be to tell, in the
order in which it is told, each with the condition under which it is told, as one on fields at
offsets of the format.  The notices are those that apply and no others, in that order
(`Image.log_read_exactly`).

There are two points at which notices are given: when the file header has been found valid, whatever
comes after it, and when everything else has.  So a file that is refused is told of just as far as
its file header goes (`Image.log_read_of_not_accepts`).
-/

namespace Raster.Bmp

open LittleEndian

/-! ## Announcements -/

/-- Something that there can be to tell of a file. -/
structure Announcement where
  /-- The condition under which it is told. -/
  applies : Prop
  level : Notice.Level
  text : String
  [decidable : Decidable applies]

instance (a : Announcement) : Decidable a.applies := a.decidable

namespace Announcement

variable {a : Announcement} {as bs : List Announcement}

/-- The levels and texts of the announcements that apply. -/
def told (as : List Announcement) : List (Notice.Level × String) :=
  (as.filter fun a => a.applies).map fun a => (a.level, a.text)

lemma told_append : told (as ++ bs) = told as ++ told bs := by
  rw [told, List.filter_append, List.map_append]
  rfl

lemma told_cons : told (a :: as) = told [a] ++ told as := @told_append [a] as

lemma told_of_forall_not (h : ∀ a ∈ as, ¬ a.applies) : told as = [] := by
  have hnone : (as.filter fun a => a.applies) = [] := by
    rw [List.filter_eq_nil_iff]
    intro a ha
    simpa using h a ha
  rw [told, hnone, List.map_nil]

end Announcement

/-- The levels and texts of notices. -/
def entries (log : List Notice) : List (Notice.Level × String) := log.map fun n => (n.level, n.text)

section Entries

variable {a : Announcement} {n : Notice}

lemma entries_singleton (ha : a.applies) (hlevel : n.level = a.level) (htext : n.text = a.text) :
    entries [n] = Announcement.told [a] := by
  simp [entries, Announcement.told, ha, hlevel, htext]

/-- A notice that is given under a condition stands for the announcement that applies under it. -/
lemma entries_ite {p : Prop} [Decidable p] (happlies : p ↔ a.applies) (hlevel : n.level = a.level)
    (htext : n.text = a.text) : entries (if p then [n] else []) = Announcement.told [a] := by
  by_cases hp : p
  · rw [if_pos hp, entries_singleton (happlies.1 hp) hlevel htext]
  · have hnone : ∀ b ∈ [a], ¬ b.applies := by
      intro b hb
      obtain rfl := List.mem_singleton.1 hb
      exact mt happlies.2 hp
    rw [if_neg hp, Announcement.told_of_forall_not hnone]
    rfl

end Entries

namespace Format

variable (data : Bytes)

instance : Decidable (Accepts data) := decidable_of_iff _ accepts_iff.symm

/-- The data start with a file header, as their first two bytes say. -/
def HasHeader : Prop := data.take 2 = [0x42, 0x4d] ∧ 14 ≤ data.length

instance : Decidable (HasHeader data) := inferInstanceAs (Decidable (_ ∧ _))

/-- The declared number of bytes of the pixel array, or zero. -/
def imageSize : Nat := (u32At data 34).toNat

/-- The display of the compression scheme. -/
def schemeText : String := (Compression.mk (u32At data 30)).layout.flat

/-- The number of entries of the color table, of which there is none for more than 8 bits a
pixel. -/
def tableEntries : Nat := if depth data ≤ 8 then tableSize data else 0

/-- What there can be to tell of a file header. -/
def headerAnnouncements : List Announcement :=
  [⟨HasHeader data ∧ 0 < fileSize data ∧ fileSize data < data.length, .warn,
      s!"ignoring {data.length - fileSize data} trailing bytes after the declared file size of "
        ++ s!"{fileSize data}"⟩,
   ⟨HasHeader data ∧ fileSize data ≤ data.length ∧ (u16At data 6 ≠ 0 ∨ u16At data 8 ≠ 0), .warn,
      s!"reserved file header fields are non-zero ({Notice.wordText (u16At data 6)}, "
        ++ Notice.wordText (u16At data 8) ++ ")"⟩]

/-- What there can be to tell of an image. -/
def imageAnnouncements : List Announcement :=
  let declared := imageSize data
  let actual := stride data * rows data
  [⟨Accepts data ∧ declared ≠ 0 ∧ declared ≠ actual, .warn,
      s!"info header declares an image size of {declared} bytes, but the pixel array has {actual} "
        ++ "bytes"⟩,
   ⟨Accepts data, .debug,
      s!"{width data}x{height data} bitmap, {depth data} bpp, compression {schemeText data}, "
        ++ s!"{tableEntries data} color table entries, stride {stride data}"⟩]

/-- What there can be to tell of a file, in the order in which it is told. -/
def announcements : List Announcement := headerAnnouncements data ++ imageAnnouncements data

variable {data}

/-! ## The file header -/

/-- The checks of the file header hold of a header that does not declare too many bytes. -/
lemma fileHeaderChecks_iff :
    (∀ c ∈ fileHeaderChecks data, c.condition) ↔ HasHeader data ∧ fileSize data ≤ data.length := by
  simp only [fileHeaderChecks, HasHeader, List.forall_mem_cons, List.not_mem_nil,
    IsEmpty.forall_iff, implies_true, and_true]
  constructor
  · rintro ⟨hsignature, hlength, hsize⟩
    exact ⟨⟨hsignature (by omega), hlength⟩, hsize⟩
  · rintro ⟨⟨hsignature, hlength⟩, hsize⟩
    exact ⟨fun _ => hsignature, hlength, hsize⟩

/-- The notices about a valid file header are the announcements that apply. -/
lemma entries_header (hheader : HasHeader data) (hsize : fileSize data ≤ data.length) :
    entries ((FileHeader.ofBytes (slice data 0 14)).notices data.length) =
      Announcement.told (headerAnnouncements data) := by
  have hzero : u32At data 2 ≠ 0 ↔ 0 < fileSize data := by
    rw [Nat.pos_iff_ne_zero]
    exact not_congr UInt32.toNat_inj.symm
  rw [fileHeader_slice, FileHeader.notices, headerAnnouncements, Announcement.told_cons, entries,
    List.map_append]
  refine congrArg₂ (· ++ ·) (entries_ite ?_ rfl rfl) (entries_ite ?_ rfl rfl)
  · dsimp only
    rw [hzero, and_iff_right hheader]
    rfl
  · dsimp only
    rw [and_iff_right hheader, and_iff_right hsize]

/-- There is nothing to tell of a file header that is refused. -/
lemma told_headerAnnouncements (h : ¬ (HasHeader data ∧ fileSize data ≤ data.length)) :
    Announcement.told (headerAnnouncements data) = [] := by
  refine Announcement.told_of_forall_not ?_
  simp only [headerAnnouncements, List.forall_mem_cons, List.not_mem_nil, IsEmpty.forall_iff,
    implies_true, and_true]
  constructor
  · rintro ⟨hheader, -, hlt⟩
    exact h ⟨hheader, hlt.le⟩
  · rintro ⟨hheader, hle, -⟩
    exact h ⟨hheader, hle⟩

/-! ## The image -/

lemma length_colorTable_image : (image data).colorTable.length = tableEntries data := by
  rw [tableEntries]
  by_cases h8 : depth data ≤ 8
  · rw [if_pos h8, colorTable_of_le h8, length_table]
  · rw [if_neg h8, colorTable_of_lt (Nat.lt_of_not_le h8), List.length_nil]

/-- The notices about an image are the announcements that apply. -/
lemma entries_image (h : Accepts data) :
    entries (image data).notices = Announcement.told (imageAnnouncements data) := by
  have hinfo : (image data).infoHeader = InfoHeader.ofBytes (slice data 14 40) := rfl
  rw [Image.notices, hinfo, infoHeader_slice data le_rfl, stride_image h, height_image,
    depth_image h, length_colorTable_image, imageAnnouncements, Announcement.told_cons, entries,
    List.map_append]
  refine congrArg₂ (· ++ ·) (entries_ite ?_ rfl rfl) (entries_singleton h rfl rfl)
  dsimp only
  rw [and_iff_right h]
  rfl

/-- There is nothing to tell of an image that is not there. -/
lemma told_imageAnnouncements (h : ¬ Accepts data) :
    Announcement.told (imageAnnouncements data) = [] := by
  refine Announcement.told_of_forall_not ?_
  simp only [imageAnnouncements, List.forall_mem_cons, List.not_mem_nil, IsEmpty.forall_iff,
    implies_true, and_true]
  exact ⟨fun happlies => h happlies.1, h⟩

end Format

namespace Image

open Format

/-- The notices about a file that is refused are those about its file header, if that is not what is
refused. -/
lemma log_read_of_not_accepts {data : Bytes} (h : ¬ Accepts data) :
    (read data).log =
      if HasHeader data ∧ fileSize data ≤ data.length then
        (FileHeader.ofBytes (slice data 0 14)).notices data.length
      else [] := by
  have hnone : ∀ i, (read data).value ≠ .ok i := fun i hi => h (read_eq_ok_iff.1 hi).1
  rw [read] at hnone ⊢
  by_cases hheader : HasHeader data ∧ fileSize data ≤ data.length
  · have hok : verdict (fileHeaderChecks data) = .ok () :=
      verdict_eq_ok_iff.2 (fileHeaderChecks_iff.2 hheader)
    rw [fileHeader_read, hok] at hnone ⊢
    rw [if_pos hheader]
    dsimp only [Except.map] at hnone ⊢
    cases hrest : ofFileHeader data (FileHeader.ofBytes (slice data 0 14)) with
    | error e => rfl
    | ok i =>
      rw [hrest] at hnone
      exact absurd rfl (hnone i)
  · rw [if_neg hheader, fileHeader_read]
    cases hverdict : verdict (fileHeaderChecks data) with
    | error e => rfl
    | ok u => exact absurd (fileHeaderChecks_iff.1 (verdict_eq_ok_iff.1 hverdict)) hheader

/-- **What is told of a file.**  The notices of reading a file are the announcements that apply to
it, in their order; those about the image apply only to the files that are read.  Decoding a file,
within any limits, gives no other notices. -/
theorem log_read_exactly (data : Bytes) :
    entries (read data).log = Announcement.told (announcements data) ∧
      (Accepts data ↔ ∃ i, (read data).value = .ok i) ∧
      ∀ limits, (Bitmap.decode limits data).log = (read data).log := by
  refine ⟨?_, by simp [read_eq_ok_iff], fun limits => rfl⟩
  rw [announcements, Announcement.told_append]
  by_cases h : Accepts data
  · have hchecks := List.forall_mem_append.1 (accepts_iff.1 h)
    obtain ⟨hheader, hsize⟩ := fileHeaderChecks_iff.1 hchecks.1
    rw [log_read (read_eq_ok_iff.2 ⟨h, rfl⟩), ← entries_header hheader hsize, ← entries_image h,
      entries, List.map_append]
    rfl
  · rw [told_imageAnnouncements h, List.append_nil, log_read_of_not_accepts h]
    split
    · next hheader => exact entries_header hheader.1 hheader.2
    · next hheader => exact (told_headerAnnouncements hheader).symm

/-- A file whose reserved fields are in use is told of, although its info header is refused. -/
example : (read ((sample.set 6 7).set 14 12)).log = [.reservedFields 7 0] := rfl

end Image

end Raster.Bmp
