import Raster.Proofs.Obstacles
import Mathlib

/-!
# How the program starts and ends

The system gives arguments as bytes, and the first one is the name of the program.  All of them have
to be texts in UTF-8: the program turns them into texts before it looks at any, and ends in a panic
if one is not (`Conversion.mapM_textOf_eq_error`).  From then on it is a conversion with the other
arguments, so what stops it is known (`Conversion.runWith_stopped`).  The main statement,
`Conversion.startWith_stopped`, puts the two together: whatever the system gives, the program ends
in that panic or with the first obstacle of the conversion, and has touched no file.

The only other panics are those of buffers which are too large.  They are not met with the reader of
this library, whose rows are short (`Conversion.run_ne_panic`).
-/

namespace Raster

variable {σ : Type}

namespace Conversion

/-- A text as the system gives it. -/
def utf8 (text : String) : Bytes := text.toByteArray.data.toList

lemma textOf_utf8 (text : String) : textOf (utf8 text) = .ok text := by
  have hbytes : (⟨(utf8 text).toArray⟩ : ByteArray) = text.toByteArray := by
    rw [utf8, Array.toArray_toList]
  rw [textOf, hbytes, String.fromUTF8?, dif_pos text.isValidUTF8]
  rfl

lemma textOf_eq_ok_iff {argument : Bytes} {text : String} :
    textOf argument = .ok text ↔ utf8 text = argument := by
  constructor
  · intro h
    rw [textOf, String.fromUTF8?] at h
    by_cases hvalid : (⟨argument.toArray⟩ : ByteArray).IsValidUTF8
    · rw [dif_pos hvalid] at h
      obtain rfl := Except.ok.inj h
      rfl
    · rw [dif_neg hvalid] at h
      cases h
  · rintro rfl
    exact textOf_utf8 text

/-- An argument that is no text is a panic. -/
lemma textOf_eq_error {argument : Bytes} {e : Failure} (h : textOf argument = .error e) :
    e = .panic .argument := by
  rw [textOf] at h
  split at h
  · cases h
  · exact (Except.error.inj h).symm

/-- The arguments are texts if the bytes are those of texts. -/
lemma mapM_textOf_eq_ok_iff {given : List Bytes} {texts : List String} :
    given.mapM textOf = .ok texts ↔ given = texts.map utf8 := by
  rw [mapM_eq_ok_iff]
  constructor
  · intro h
    induction h with
    | nil => rfl
    | cons hfirst _ ih => rw [List.map_cons, textOf_eq_ok_iff.1 hfirst, ih]
  · rintro rfl
    rw [List.forall₂_map_left_iff, List.forall₂_same]
    exact fun text _ => textOf_utf8 text

lemma mapM_textOf_eq_error {given : List Bytes} (h : ∀ texts : List String,
    given ≠ texts.map utf8) : given.mapM textOf = .error (.panic .argument) := by
  cases hgiven : given.mapM textOf with
  | ok texts => exact absurd (mapM_textOf_eq_ok_iff.1 hgiven) (h texts)
  | error e =>
    obtain ⟨argument, -, hargument⟩ := exists_of_mapM_eq_error hgiven
    rw [textOf_eq_error hargument]

variable {r : Png.Reader σ} {given : List Bytes} {t : FileTree}

/-- What is no text is noticed before anything else. -/
lemma startWith_of_not_texts (h : ∀ texts : List String, given ≠ texts.map utf8) :
    startWith r given t = (.error (.panic .argument), t) := by
  rw [startWith, mapM_textOf_eq_error h]

/-- The name of the program plays no part in the conversion. -/
lemma startWith_of_texts (r : Png.Reader σ) (texts : List String) (t : FileTree) :
    startWith r (texts.map utf8) t = runWith r texts.tail t := by
  rw [startWith, mapM_textOf_eq_ok_iff.2 rfl]

lemma startWith_eq_usage_iff :
    (startWith r given t).1 = .error .usage ↔
      ∃ texts : List String, given = texts.map utf8 ∧ ¬ Understood texts.tail := by
  by_cases htexts : ∃ texts : List String, given = texts.map utf8
  · obtain ⟨texts, rfl⟩ := htexts
    rw [startWith_of_texts, runWith_eq_usage_iff]
    refine ⟨fun hnot => ⟨texts, rfl, hnot⟩, ?_⟩
    rintro ⟨texts', hsame, hnot⟩
    have htexts := mapM_textOf_eq_ok_iff.2 hsame
    rw [mapM_textOf_eq_ok_iff.2 rfl] at htexts
    rwa [Except.ok.inj htexts]
  · rw [startWith_of_not_texts fun texts h => htexts ⟨texts, h⟩]
    exact iff_of_false nofun fun ⟨texts, h, _⟩ => htexts ⟨texts, h⟩

/-- The byte `0xff` is no text. -/
lemma not_texts_byte (texts : List String) : [utf8 "p", [0xff]] ≠ texts.map utf8 := by
  intro h
  have hbyte : textOf [0xff] = .error (.panic .argument) := by decide +kernel
  have htexts := mapM_textOf_eq_ok_iff.2 h
  rw [List.mapM_cons, textOf_utf8, ok_bind, List.mapM_cons, hbyte] at htexts
  cases htexts

/-- With the sample, everything can be prepared. -/
lemma exists_prepare_sample : ∃ p, prepare Png.reader ["i", "o"] sampleFiles = .ok p := by
  obtain ⟨b, hb, -⟩ := exists_bitmapOf finds_samplePng (by decide)
  have hc : ofArguments ["i", "o"] = .ok ⟨"i", "o", .bgr24⟩ := rfl
  rw [prepare, hc, ok_bind, read_sampleFiles, Except.mapError, ok_bind, hb, ok_bind,
    write_sampleFiles]
  exact ⟨_, rfl⟩

/-- With the reader of this library a conversion does not end in a panic. -/
theorem run_ne_panic (arguments : List String) (t : FileTree) (reason : Panic) :
    (run arguments t).1 ≠ .error (.panic reason) := by
  intro hrun
  rw [run] at hrun
  cases hprepare : prepare Png.reader arguments t with
  | error e =>
    rw [runWith_of_prepare_eq_error hprepare] at hrun
    obtain rfl := Except.error.inj hrun
    obtain ⟨p, hp, hstops⟩ := (firstOf_prepare Png.reader arguments t).exists_of_eq_error hprepare
    obtain ⟨o, -, rfl⟩ := List.mem_map.1 hp
    -- buffers are the only obstacles that are panics, and the reader knows their sizes
    cases o with
    | buffer =>
      obtain ⟨header, rest, ⟨data, -, hstart⟩, hsize, -⟩ := hstops
      exact Nat.not_lt.2 (Png.bufferSize_reader_le hstart) hsize
    | widening =>
      obtain ⟨header, rest, samples, ⟨data, -, hstart⟩, hdepth, hsamples, hcolor, hsize, -⟩ :=
        hstops
      exact Nat.not_lt.2 (Png.samples_reader_le hstart hdepth hcolor hsamples) hsize
    | _ => simp [Obstacle.Stops] at hstops
  | ok prepared =>
    obtain ⟨c, b, created⟩ := prepared
    rw [(runWith_of_prepare_eq_ok hprepare).2.2] at hrun
    cases hbytes : b.encode c.format with
    | error e => rw [hbytes] at hrun; cases hrun
    | ok bytes => rw [hbytes] at hrun; cases hrun

end Conversion

end Raster
