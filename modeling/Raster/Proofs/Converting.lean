import Raster.Conversion
import Raster.Proofs.Bits
import Raster.Proofs.Files
import Raster.Proofs.Limits
import Raster.Proofs.TornWrites
import Mathlib

/-!
# What a conversion writes

A conversion relies on a reader of PNG files for the header and the samples of a picture.
`Png.Reader.Finds` says what such a reader has to find for the conversion to go through: samples of
eight bits, three or four for each pixel, row by row, that fill the buffer for them.  Then the
output file is the file of a bitmap with these colors (`Conversion.runWith_writes_picture`).

On the files of a tree the steps of a conversion come in two parts: what is prepared up to the
creation of the output file, and the writing of it (`runWith_eq_finish`).  To write a picture takes
three things.  The samples are turned into the four bytes of each pixel (`exists_of_rgbaOfSamples`),
which are those of a bitmap (`exists_bitmapOf`); the output file is created, and written again with
the file of the bitmap (`runWith_of_bitmapOf`); and what that file gives back is what its format
keeps of the bitmap (`Bitmap.pixel?_readBack`).
-/

namespace Raster

open Bmp.Format

variable {σ : Type}

/-! ## Pictures and their samples -/

/-- A color has the samples from some place on.  It is opaque unless it has an alpha sample. -/
structure Color.HasSamples (samples : Bytes) (start : Nat) (hasAlpha : Prop) (c : Color) :
    Prop where
  red : samples[start]? = some c.red
  green : samples[start + 1]? = some c.green
  blue : samples[start + 2]? = some c.blue
  alpha : hasAlpha → samples[start + 3]? = some c.alpha
  solid : ¬ hasAlpha → c.alpha = 0xff

/-- A bitmap shows the picture with some header and samples, with or without its alpha channel. -/
structure Bitmap.Depicts (header : Png.Header) (samples : Bytes) (hasAlpha : Prop) (b : Bitmap) :
    Prop where
  width : b.width = header.width
  height : b.height = header.height
  pixel : ∀ x y, x < header.width → y < header.height → ∃ c, b.pixel? x y = some c ∧
    c.HasSamples samples ((y * header.width + x) * header.colorType.samples) hasAlpha

/-- A reader finds a picture in some data: samples of eight bits in RGB or RGBA, for each of at
least one pixel, and a buffer of their size. -/
structure Png.Reader.Finds (r : Png.Reader σ) (data : Bytes) (header : Png.Header)
    (samples : Bytes) : Prop where
  reads : ∃ rest, r.start data = .ok (header, rest) ∧ r.bufferSize rest = samples.length ∧
    r.samples rest = .ok samples
  width_pos : 0 < header.width
  height_pos : 0 < header.height
  depth : header.depth = .eight
  colorType : header.colorType = .rgb ∨ header.colorType = .rgba
  length_samples : samples.length = header.width * header.height * header.colorType.samples

/-- No pixel has more than four samples. -/
lemma Png.Reader.Finds.length_le {r : Png.Reader σ} {data samples : Bytes} {header : Png.Header}
    (h : r.Finds data header samples) : samples.length ≤ header.width * header.height * 4 := by
  rw [h.length_samples]
  apply Nat.mul_le_mul_left
  rcases h.colorType with hcolor | hcolor <;> rw [hcolor] <;> decide

namespace Conversion

/-! ## The bitmap of a picture -/

/-- The samples of a pixel, and the byte that makes it opaque. -/
lemma exists_color_of_rgb {samples : Bytes} {start : Nat} (h : start + 3 ≤ samples.length) :
    ∃ c : Color, slice samples start 3 ++ [0xff] = c.toBytes ∧
      c.HasSamples samples start False := by
  obtain ⟨red, green, blue, hslice⟩ := List.length_eq_three.1 (length_slice h)
  have hget : ∀ k < 3, samples[start + k]? = [red, green, blue][k]? := by
    intro k hk
    rw [← hslice, getElem?_slice hk]
  refine ⟨⟨red, green, blue, 0xff⟩, by rw [hslice]; rfl, ?_⟩
  exact {
    red := hget 0 (by decide)
    green := hget 1 (by decide)
    blue := hget 2 (by decide)
    alpha := False.elim
    solid := fun _ => rfl }

/-- The samples of a pixel, the last of which is its alpha byte. -/
lemma exists_color_of_rgba {samples : Bytes} {start : Nat} (h : start + 4 ≤ samples.length) :
    ∃ c : Color, slice samples start 4 = c.toBytes ∧ c.HasSamples samples start True := by
  obtain ⟨red, green, blue, alpha, hslice⟩ := List.length_eq_four.1 (length_slice h)
  have hget : ∀ k < 4, samples[start + k]? = [red, green, blue, alpha][k]? := by
    intro k hk
    rw [← hslice, getElem?_slice hk]
  refine ⟨⟨red, green, blue, alpha⟩, hslice, ?_⟩
  exact {
    red := hget 0 (by decide)
    green := hget 1 (by decide)
    blue := hget 2 (by decide)
    alpha := fun _ => hget 3 (by decide)
    solid := fun hnot => absurd trivial hnot }

/-- The samples of some pixels give four bytes each, which are those of a color with the samples of
the pixel. -/
lemma exists_of_rgbaOfSamples {colorType : Png.ColorType} {samples : Bytes} {count : Nat}
    (hcolor : colorType = .rgb ∨ colorType = .rgba)
    (hlength : samples.length = count * colorType.samples)
    (hroom : colorType = .rgb → samples.length / 3 * 4 ≤ maxCapacity) :
    ∃ pixels, rgbaOfSamples colorType samples = .ok pixels ∧ pixels.length = count * 4 ∧
      ∀ q < count, ∃ c : Color, slice pixels (q * 4) 4 = c.toBytes ∧
        c.HasSamples samples (q * colorType.samples) (colorType = .rgba) := by
  rcases hcolor with rfl | rfl
  · have hsamples : samples.length = count * 3 := hlength
    have hcount : samples.length / 3 = count := by omega
    have hblock : ∀ piece ∈ pieces count 3 samples, (piece ++ [(0xff : UInt8)]).length = 4 := by
      intro piece hpiece
      rw [List.length_append, length_of_mem_pieces hsamples.ge hpiece]
      rfl
    refine ⟨(pieces count 3 samples).flatMap (· ++ [0xff]), ?_, ?_, ?_⟩
    · have hfits := hroom rfl
      rw [hcount] at hfits
      rw [rgbaOfSamples, hcount, require_bind hfits]
      rfl
    · rw [length_blocks hblock, length_pieces]
    · intro q hq
      have hend : q * 3 + 3 ≤ samples.length := by omega
      obtain ⟨c, hbytes, hc⟩ := exists_color_of_rgb hend
      refine ⟨c, ?_, ?_⟩
      · rw [← hbytes]
        exact take_drop_blocks hblock (getElem?_pieces hq)
      · simpa [Png.ColorType.samples] using hc
  · have hsamples : samples.length = count * 4 := hlength
    refine ⟨samples, rfl, hsamples, ?_⟩
    intro q hq
    have hend : q * 4 + 4 ≤ samples.length := by omega
    obtain ⟨c, hbytes, hc⟩ := exists_color_of_rgba hend
    exact ⟨c, hbytes, by simpa [Png.ColorType.samples] using hc⟩

/-- Once the header is known, the depth and the buffer are judged, and then the samples are read. -/
lemma bitmapOf_of_start {r : Png.Reader σ} {data : Bytes} {header : Png.Header} {rest : σ}
    (h : r.start data = .ok (header, rest)) :
    bitmapOf r data = require (header.depth = .eight) (.depth header.depth) >>= fun _ =>
      require (r.bufferSize rest ≤ maxCapacity) (.panic .capacity) >>= fun _ =>
        (r.samples rest).mapError .png >>= fun samples =>
          rgbaOfSamples header.colorType samples >>= fun pixels =>
            (Bitmap.ofPixels header.width header.height pixels).mapError .bitmap := by
  rw [bitmapOf, h]
  rfl

/-- The bitmap of a picture that a reader finds shows it, if its pixels fit into a buffer. -/
lemma exists_bitmapOf {r : Png.Reader σ} {data samples : Bytes} {header : Png.Header}
    (h : r.Finds data header samples) (hsize : header.width * header.height * 4 ≤ maxCapacity) :
    ∃ b, bitmapOf r data = .ok b ∧ b.Depicts header samples (header.colorType = .rgba) := by
  obtain ⟨rest, hstart, hbuffer, hsamples⟩ := h.reads
  have hbytes : samples.length ≤ maxCapacity := h.length_le.trans hsize
  have hroom : header.colorType = .rgb → samples.length / 3 * 4 ≤ maxCapacity := by
    intro hcolor
    have hthree := h.length_samples
    rw [hcolor] at hthree
    have hcount : samples.length = header.width * header.height * 3 := hthree
    omega
  obtain ⟨pixels, hpixels, hlength, hcolors⟩ :=
    exists_of_rgbaOfSamples h.colorType h.length_samples hroom
  let b : Bitmap := ⟨header.width, header.height, pixels, h.width_pos, h.height_pos, hlength⟩
  have hb : Bitmap.ofPixels header.width header.height pixels = .ok b :=
    Bitmap.ofPixels_eq_ok_iff.2 ⟨rfl, rfl, rfl⟩
  refine ⟨b, ?_, rfl, rfl, fun x y hx hy => ?_⟩
  · rw [bitmapOf_of_start hstart, require_bind h.depth, require_bind (hbuffer.trans_le hbytes),
      mapError_eq_ok_iff.2 hsamples, ok_bind, hpixels, ok_bind, mapError_eq_ok_iff.2 hb]
  · have hq : y * header.width + x < header.width * header.height := by
      rw [Nat.mul_comm header.width]
      exact mul_add_lt hy hx
    obtain ⟨c, hbytes, hc⟩ := hcolors _ hq
    refine ⟨c, ?_, hc⟩
    rw [slice] at hbytes
    rw [Bitmap.pixel?, if_pos ⟨hx, hy⟩, hbytes, Color.ofBytes?_toBytes]

/-- The format without an alpha channel keeps none, and the other one all there is. -/
lemma depicts_readBack {header : Png.Header} {samples : Bytes} {hasAlpha : Prop} {b : Bitmap}
    (h : b.Depicts header samples hasAlpha) (f : PixelFormat) :
    (b.readBack f).Depicts header samples (hasAlpha ∧ f = .bgra32) := by
  refine ⟨?_, ?_, fun x y hx hy => ?_⟩
  · rw [Bitmap.width_readBack, h.width]
  · rw [Bitmap.height_readBack, h.height]
  · obtain ⟨c, hpixel, hc⟩ := h.pixel x y hx hy
    rw [← h.width] at hx
    rw [← h.height] at hy
    refine ⟨f.kept c, Bitmap.pixel?_readBack hx hy hpixel, ?_⟩
    cases f with
    | bgr24 =>
      exact ⟨hc.red, hc.green, hc.blue, fun halpha => absurd halpha.2 (by decide), fun _ => rfl⟩
    | bgra32 =>
      exact ⟨hc.red, hc.green, hc.blue, fun halpha => hc.alpha halpha.1,
        fun hnot => hc.solid fun halpha => hnot ⟨halpha, rfl⟩⟩

/-! ## The output file -/

/-- The arguments that ask for a conversion, with or without the alpha channel. -/
def argumentsFor (source target : String) (withAlpha : Bool) : List String :=
  [source, target] ++ if withAlpha then ["--alpha"] else []

/-- The format that the arguments ask for. -/
def formatFor (withAlpha : Bool) : PixelFormat := if withAlpha then .bgra32 else .bgr24

lemma ofArguments_argumentsFor (source target : String) (withAlpha : Bool) :
    ofArguments (argumentsFor source target withAlpha) =
      .ok ⟨source, target, formatFor withAlpha⟩ := by
  cases withAlpha <;> rfl

lemma formatFor_eq_bgra32_iff {withAlpha : Bool} :
    formatFor withAlpha = .bgra32 ↔ withAlpha = true := by
  cases withAlpha <;> simp [formatFor]

/-- The pixels of a picture whose file can be written fit into a buffer. -/
lemma area_le_of_fits {f : PixelFormat} {width height : Nat} (hfits : f.Fits width height) :
    width * height * 4 ≤ maxCapacity := by
  obtain ⟨-, -, hsize⟩ := hfits
  have hbits : 8 < f.depth.bits ∧ 3 ≤ f.depth.bits / 8 := by
    cases f <;> decide
  have hstride : width * 3 ≤ f.depth.stride width :=
    (Nat.mul_le_mul_left _ hbits.2).trans (Bmp.Depth.bytes_le_stride hbits.1 width)
  have harea : width * 3 * height ≤ f.imageSize width height := Nat.mul_le_mul_right _ hstride
  rw [PixelFormat.fileSize] at hsize
  rw [Nat.mul_right_comm] at harea
  rw [maxCapacity]
  omega

/-! ## The steps on the files of a tree -/

/-- A part of a conversion of files in a tree. -/
abbrev OnTree (α : Type) := ExceptT Failure (StateM FileTree) α

section

variable {α β : Type} (t : FileTree)

lemma run_bind (x : OnTree α) (f : α → OnTree β) :
    (x >>= f).run.run t =
      match x.run.run t with
      | (.ok a, t') => (f a).run.run t'
      | (.error e, t') => (.error e, t') := by
  show (match x.run.run t with | (a, t') => ExceptT.bindCont f a t') = _
  rcases x.run.run t with ⟨_ | _, _⟩ <;> rfl

lemma run_lift (x : Except Failure α) : (liftM x : OnTree α).run.run t = (x, t) := rfl

lemma run_read (path : String) :
    (treeAccess.read path).run.run t = ((t.read path).mapError .file, t) := rfl

lemma run_write (path : String) (data : Bytes) :
    (treeAccess.write path data).run.run t =
      match (t.write path data).mapError Failure.file with
      | .ok written => (.ok (), written)
      | .error e => (.error e, t) := rfl

end

/-- Everything up to the creation of the output file. -/
def prepare (r : Png.Reader σ) (arguments : List String) (t : FileTree) :
    Except Failure (Conversion × Bitmap × FileTree) :=
  ofArguments arguments >>= fun c => (t.read c.source).mapError .file >>= fun data =>
    bitmapOf r data >>= fun b => (t.write c.target []).mapError .file >>= fun created =>
      .ok (c, b, created)

/-- The bitmap is put into the output file, once everything is prepared. -/
def finish (t : FileTree) :
    Except Failure (Conversion × Bitmap × FileTree) → Except Failure Unit × FileTree
  | .error e => (.error e, t)
  | .ok (c, b, created) =>
    match (b.encode c.format).mapError .bitmap with
    | .error e => (.error e, created)
    | .ok bytes =>
      match (created.write c.target bytes).mapError .file with
      | .error e => (.error e, created)
      | .ok written => (.ok (), written)

/-- The output file gets what the bitmap writes to a sink that has room. -/
theorem finish_of_writeTo {c : Conversion} {b : Bitmap} {capacity : Nat} {sink : Sink}
    (hwrite : b.writeTo c.format (Sink.ofCapacity capacity) = (.ok (), sink))
    (t created : FileTree) :
    finish t (.ok (c, b, created)) =
      match (created.write c.target sink.written).mapError .file with
      | .error e => (.error e, created)
      | .ok written => (.ok (), written) := by
  obtain ⟨hencode, -⟩ := Bitmap.writeTo_eq_ok_iff.1 hwrite
  rw [finish, hencode]
  rfl

/-- The files change only once everything is prepared. -/
lemma runWith_eq_finish (r : Png.Reader σ) (arguments : List String) (t : FileTree) :
    runWith r arguments t = finish t (prepare r arguments t) := by
  rw [runWith, steps, prepare]
  simp only [run_bind, run_lift, run_read, run_write]
  cases ofArguments arguments with
  | error e => rfl
  | ok c =>
    rw [ok_bind]
    dsimp only
    cases (t.read c.source).mapError Failure.file with
    | error e => rfl
    | ok data =>
      rw [ok_bind]
      dsimp only
      cases bitmapOf r data with
      | error e => rfl
      | ok b =>
        rw [ok_bind]
        dsimp only
        cases (t.write c.target []).mapError Failure.file with
        | error e => rfl
        | ok created =>
          rw [ok_bind, finish]
          dsimp only
          cases (b.encode c.format).mapError Failure.bitmap with
          | error e => rfl
          | ok bytes =>
            dsimp only
            cases (created.write c.target bytes).mapError Failure.file <;> rfl

/-- Once there is a bitmap, the output file is created and then holds its file. -/
lemma runWith_of_bitmapOf {r : Png.Reader σ} {arguments : List String} {c : Conversion}
    {t created : FileTree} {data bytes : Bytes} {b : Bitmap} (hc : ofArguments arguments = .ok c)
    (hread : t.read c.source = .ok data) (hb : bitmapOf r data = .ok b)
    (hcreate : t.write c.target [] = .ok created) (hencode : b.encode c.format = .ok bytes) :
    runWith r arguments t =
      (.ok (), created.insert (FileTree.location c.target) (.file bytes)) := by
  have hwrite := FileTree.write_of_write hcreate bytes
  rw [runWith_eq_finish, prepare, hc]
  simp only [ok_bind, hread, hb, hcreate, hencode, hwrite, finish, Except.mapError]

/-- **What a conversion writes.**  If a reader of PNG files finds a picture in the input file, the
output file can be created and the header fields can hold the sizes of the picture, the conversion
succeeds.  The output file then holds the file of a bitmap with the colors of the picture; within
limits that admit it, that file gives back these colors, with the alpha channel if there is one and
it was asked for.  No other file has changed. -/
theorem runWith_writes_picture {r : Png.Reader σ} {t created : FileTree} {source target : String}
    {data samples : Bytes} {header : Png.Header} (withAlpha : Bool)
    (hread : t.read source = .ok data) (hfinds : r.Finds data header samples)
    (hcreate : t.write target [] = .ok created)
    (hfits : (formatFor withAlpha).Fits header.width header.height) :
    ∃ (b : Bitmap) (bytes : Bytes) (written : FileTree),
      runWith r (argumentsFor source target withAlpha) t = (.ok (), written) ∧
      (report (runWith r (argumentsFor source target withAlpha) t).1).exitCode = 0 ∧
      b.Depicts header samples (header.colorType = .rgba) ∧
      b.encode (formatFor withAlpha) = .ok bytes ∧ written.read target = .ok bytes ∧
      (∀ limits : Limits, limits.Admits header.width header.height →
        ∃ b', (Bitmap.decode limits bytes).value = .ok b' ∧
          b'.Depicts header samples (header.colorType = .rgba ∧ withAlpha = true)) ∧
      ∀ loc, loc ≠ FileTree.location target → written.node? loc = t.node? loc := by
  obtain ⟨b, hb, hdepicts⟩ := exists_bitmapOf hfinds (area_le_of_fits hfits)
  rw [← hdepicts.width, ← hdepicts.height] at hfits
  have hrun := runWith_of_bitmapOf (ofArguments_argumentsFor source target withAlpha) hread hb
    hcreate (Bitmap.encode_of_fits hfits)
  refine ⟨b, b.file (formatFor withAlpha), _, hrun, by rw [hrun]; rfl, hdepicts,
    Bitmap.encode_of_fits hfits, ?_, fun limits hadmits => ?_, fun loc hloc => ?_⟩
  · exact FileTree.read_of_stat (FileTree.stat_write (FileTree.write_of_write hcreate _))
  · obtain ⟨hwidth, hheight⟩ := hadmits
    rw [← hdepicts.width] at hwidth
    rw [← hdepicts.height] at hheight
    refine ⟨_, Bitmap.decode_file_of_le hfits hwidth hheight, ?_⟩
    have hback := depicts_readBack hdepicts (formatFor withAlpha)
    rwa [formatFor_eq_bgra32_iff] at hback
  · obtain ⟨-, -, rfl⟩ := FileTree.exists_of_write hcreate
    rw [FileTree.node?_insert_of_ne hloc, FileTree.node?_insert_of_ne hloc]

/-- The samples of two pixels in RGBA, stored without compression. -/
def sampleData : Bytes :=
  [0x78, 1, 1, 9, 0, 246, 255, 0, 10, 20, 30, 40, 50, 60, 70, 80, 4, 185, 1, 105]

/-- A PNG file with these samples. -/
def samplePng : Bytes :=
  [0x89, 0x50, 0x4e, 0x47, 0x0d, 0x0a, 0x1a, 0x0a,
   0, 0, 0, 13, 0x49, 0x48, 0x44, 0x52, 0, 0, 0, 2, 0, 0, 0, 1, 8, 6, 0, 0, 0, 244, 34, 127, 138,
   0, 0, 0, 20, 0x49, 0x44, 0x41, 0x54] ++ sampleData ++ [40, 120, 45, 117,
   0, 0, 0, 0, 0x49, 0x45, 0x4e, 0x44, 174, 66, 96, 130]

/-- What is known of the PNG file when its header has been read. -/
def sampleOpened : Png.Opened where
  header := ⟨2, 1, .eight, .rgba, false⟩
  chunks := [⟨Png.Chunk.picture, sampleData, true⟩, ⟨Png.Chunk.last, [], true⟩]

/-- A working directory with the PNG file, and a file in the place of the output file. -/
def sampleFiles : FileTree :=
  (FileTree.empty.insert ["i"] (.file samplePng)).insert ["o"] (.file [1, 2, 3])

lemma finds_samplePng :
    Png.reader.Finds samplePng ⟨2, 1, .eight, .rgba, false⟩ [10, 20, 30, 40, 50, 60, 70, 80] := by
  have hopened : Png.Opened.ofBytes samplePng = .ok sampleOpened := by decide +kernel
  have hsamples : sampleOpened.samples = .ok [10, 20, 30, 40, 50, 60, 70, 80] := by decide +kernel
  refine ⟨⟨sampleOpened, ?_, rfl, hsamples⟩, by decide, by decide, rfl, Or.inr rfl, rfl⟩
  show (Png.Opened.ofBytes samplePng >>= fun o => .ok (o.header, o)) = _
  rw [hopened]
  rfl

lemma read_sampleFiles : sampleFiles.read "i" = .ok samplePng := by cbv

lemma write_sampleFiles :
    sampleFiles.write "o" [] = .ok (sampleFiles.insert ["o"] (.file [])) := by cbv

/-- With the flag the alpha channel is kept. -/
theorem runWith_writes_picture_sample :
    ∃ bytes written, run ["i", "o", "--alpha"] sampleFiles = (.ok (), written) ∧
      written.read "o" = .ok bytes ∧ written.node? ["i"] = some (.file samplePng) ∧
      ∃ b, (Bitmap.decode {} bytes).value = .ok b ∧ b.pixel? 1 0 = some ⟨50, 60, 70, 80⟩ := by
  obtain ⟨b, bytes, written, hrun, -, -, -, hwritten, hdecode, hkept⟩ :=
    runWith_writes_picture true read_sampleFiles finds_samplePng write_sampleFiles (by decide)
  obtain ⟨b', hb', hdepicts⟩ := hdecode {} (by decide)
  obtain ⟨c, hpixel, hc⟩ := hdepicts.pixel 1 0 (by decide) (by decide)
  have hcolor : c = ⟨50, 60, 70, 80⟩ := by
    rw [Color.mk.injEq]
    exact ⟨(Option.some.inj hc.red).symm, (Option.some.inj hc.green).symm,
      (Option.some.inj hc.blue).symm, (Option.some.inj (hc.alpha ⟨rfl, rfl⟩)).symm⟩
  refine ⟨bytes, written, hrun, hwritten, ?_, b', hb', ?_⟩
  · rw [hkept ["i"] (by cbv; decide)]
    rfl
  · rw [hpixel, hcolor]

end Conversion

end Raster
