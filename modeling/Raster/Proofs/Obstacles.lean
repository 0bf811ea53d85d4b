import Raster.Proofs.Addressing
import Raster.Proofs.Converting
import Raster.Proofs.PngSamples
import Mathlib

/-!
# What stops a conversion

A conversion can be stopped by its arguments, by the input file, by the PNG picture in it and by the
place of the output file, and by several of them at once.  An `Obstacle` is a way in which it is
stopped, with a condition on arguments, files and what a reader of PNG files finds, and
`Obstacle.order` is the order in which obstacles count: the place of the output file comes last.  A
conversion that meets an obstacle ends with the first one and leaves all files as they were, also if
the output file is the input file (`Conversion.runWith_stopped`); one that meets none has created
its output file.

The steps of a conversion use what the steps before have found, so an obstacle later in the order is
looked for only where there are no earlier ones.  `FirstOf` relates a list of conditions to an
outcome, and is built up along the steps (`FirstOf.bind`).
-/

namespace Raster

variable {σ α β ε : Type}

/-! ## The first of some conditions -/

/-- An outcome is the error of the first condition that gives one, and a result if none does. -/
inductive FirstOf : List (ε → Prop) → Except ε α → Prop where
  | done (a : α) : FirstOf [] (.ok a)
  | here {p : ε → Prop} {ps : List (ε → Prop)} {e : ε} (h : ∀ e', p e' ↔ e' = e) :
    FirstOf (p :: ps) (.error e)
  | later {p : ε → Prop} {ps : List (ε → Prop)} {x : Except ε α} (h : ∀ e, ¬ p e)
      (hrest : FirstOf ps x) : FirstOf (p :: ps) x

namespace FirstOf

variable {p : ε → Prop} {ps qs : List (ε → Prop)} {x : Except ε α}

/-- A step gives the errors for which there is a condition. -/
lemma single (h : ∀ e, p e ↔ x = .error e) : FirstOf [p] x := by
  cases x with
  | ok a => exact later (fun e he => nomatch (h e).1 he) (done a)
  | error e =>
    refine here fun e' => (h e').trans ⟨fun he => (Except.error.inj he).symm, ?_⟩
    rintro rfl
    rfl

/-- The conditions of what follows a step count only if the step has a result. -/
lemma bind {f : α → Except ε β} (hx : FirstOf ps x)
    (hf : ∀ a, x = .ok a → FirstOf qs (f a)) : FirstOf (ps ++ qs) (x >>= f) := by
  induction hx with
  | done a => exact hf a rfl
  | here h => exact here h
  | later h _ ih => exact later h (ih hf)

lemma eq_error (hx : FirstOf (ps ++ p :: qs) x) (hbefore : ∀ q ∈ ps, ∀ e, ¬ q e) {e : ε}
    (he : p e) : x = .error e := by
  induction ps with
  | nil =>
    cases hx with
    | here h => rw [(h e).1 he]
    | later h _ => exact absurd he (h e)
  | cons q ps ih =>
    rw [List.forall_mem_cons] at hbefore
    cases hx with
    | here h => exact absurd ((h _).2 rfl) (hbefore.1 _)
    | later _ hrest => exact ih hrest hbefore.2

/-- An error is that of one of the conditions. -/
lemma exists_of_eq_error (hx : FirstOf ps x) {e : ε} (he : x = .error e) : ∃ p ∈ ps, p e := by
  induction hx with
  | done a => cases he
  | here h =>
    obtain rfl := Except.error.inj he
    exact ⟨_, List.mem_cons_self, (h _).2 rfl⟩
  | later _ _ ih =>
    obtain ⟨p, hp, hpe⟩ := ih he
    exact ⟨p, List.mem_cons_of_mem _ hp, hpe⟩

lemma forall_not_of_ok (hx : FirstOf ps x) {a : α} (ha : x = .ok a) : ∀ p ∈ ps, ∀ e, ¬ p e := by
  induction hx with
  | done a => exact fun p hp => nomatch hp
  | here h => cases ha
  | later h _ ih => exact List.forall_mem_cons.2 ⟨h, ih ha⟩

lemma exists_eq_ok (hx : FirstOf ps x) (hnone : ∀ p ∈ ps, ∀ e, ¬ p e) : ∃ a, x = .ok a := by
  induction hx with
  | done a => exact ⟨a, rfl⟩
  | here h => exact absurd ((h _).2 rfl) (hnone _ List.mem_cons_self _)
  | later _ _ ih => exact ih (List.forall_mem_cons.1 hnone).2

end FirstOf

/-! ## Obstacles -/

namespace Conversion

/-- The arguments are two, or three of which the last is the flag. -/
def Understood (arguments : List String) : Prop :=
  arguments.length = 2 ∨ arguments.length = 3 ∧ arguments[2]? = some "--alpha"

instance (arguments : List String) : Decidable (Understood arguments) :=
  inferInstanceAs (Decidable (_ ∨ _))

/-- What can stop a conversion before it has created its output file. -/
inductive Obstacle where
  | usage
  /-- The input file cannot be opened. -/
  | source
  /-- The header of the picture cannot be read. -/
  | header
  | depth
  /-- The samples need a larger buffer than can be asked for. -/
  | buffer
  /-- The samples of the picture cannot be read. -/
  | samples
  | colorType
  /-- The pixels need a larger buffer than can be asked for. -/
  | widening
  /-- The samples do not make up a bitmap. -/
  | pixels
  /-- The output file cannot be created. -/
  | target
deriving DecidableEq

namespace Obstacle

/-- The obstacles in the input file, in the order in which they count. -/
def inPicture : List Obstacle := [header, depth, buffer, samples, colorType, widening, pixels]

/-- The order in which obstacles count. -/
def order : List Obstacle := usage :: source :: (inPicture ++ [target])

/-- The obstacles that end the program in a panic. -/
def buffers : List Obstacle := [buffer, widening]

variable (r : Png.Reader σ) (arguments : List String) (t : FileTree)

/-- The input file has this content. -/
def HasInput (data : Bytes) : Prop := ∃ path, arguments[0]? = some path ∧ t.read path = .ok data

/-- The input file has a picture with this header, and this is left of it to be read. -/
def HasPicture (header : Png.Header) (rest : σ) : Prop :=
  ∃ data, HasInput arguments t data ∧ r.start data = .ok (header, rest)

/-- The condition under which an obstacle stops a conversion, and the failure that is reported. -/
def Stops (o : Obstacle) (e : Failure) : Prop :=
  match o with
  | usage => ¬ Understood arguments ∧ e = .usage
  | source => ∃ path fault, arguments[0]? = some path ∧ t.read path = .error fault ∧
    e = .file fault
  | header => ∃ data fault, HasInput arguments t data ∧ r.start data = .error fault ∧
    e = .png fault
  | depth => ∃ header rest, HasPicture r arguments t header rest ∧ header.depth ≠ .eight ∧
    e = .depth header.depth
  | buffer => ∃ header rest, HasPicture r arguments t header rest ∧
    maxCapacity < r.bufferSize rest ∧ e = .panic .capacity
  | samples => ∃ header rest fault, HasPicture r arguments t header rest ∧
    r.samples rest = .error fault ∧ e = .png fault
  | colorType => ∃ header rest, HasPicture r arguments t header rest ∧
    header.colorType ∉ [.rgb, .rgba] ∧ e = .colorType header.colorType
  | widening => ∃ header rest samples, HasPicture r arguments t header rest ∧
    header.depth = .eight ∧ r.samples rest = .ok samples ∧ header.colorType = .rgb ∧
    maxCapacity < samples.length / 3 * 4 ∧ e = .panic .capacity
  | pixels => ∃ header rest samples pixels error, HasPicture r arguments t header rest ∧
    header.depth = .eight ∧ r.samples rest = .ok samples ∧
    rgbaOfSamples header.colorType samples = .ok pixels ∧
    Bitmap.ofPixels header.width header.height pixels = .error error ∧ e = .bitmap error
  | target => ∃ path fault, arguments[1]? = some path ∧ t.write path [] = .error fault ∧
    e = .file fault

end Obstacle

/-! ## The steps -/

variable {r : Png.Reader σ} {arguments : List String} {t : FileTree} {c : Conversion}
  {data : Bytes} {header : Png.Header} {rest : σ}

open Obstacle (HasInput HasPicture)

lemma stops_usage_iff (e : Failure) :
    Obstacle.usage.Stops r arguments t e ↔ ofArguments arguments = .error e := by
  have hrefused : ofArguments arguments = .error e ↔ ¬ Understood arguments ∧ e = .usage := by
    match arguments with
    | [] | [_] | _ :: _ :: _ :: _ :: _ => simp [ofArguments, Understood, eq_comm]
    | [_, _] => simp [ofArguments, Understood]
    | [_, _, flag] =>
      by_cases hflag : flag = "--alpha"
      · simp [ofArguments, Understood, hflag]
      · simp [ofArguments, Understood, hflag, eq_comm]
  exact hrefused.symm

/-- The first two arguments name the files. -/
lemma paths_of_ofArguments (h : ofArguments arguments = .ok c) :
    arguments[0]? = some c.source ∧ arguments[1]? = some c.target := by
  match arguments with
  | [] | [_] | _ :: _ :: _ :: _ :: _ => cases h
  | [source, target] =>
    obtain rfl := Except.ok.inj h
    exact ⟨rfl, rfl⟩
  | [source, target, flag] =>
    rw [ofArguments] at h
    split at h
    · obtain rfl := Except.ok.inj h
      exact ⟨rfl, rfl⟩
    · cases h

lemma stops_source_iff (hc : ofArguments arguments = .ok c) (e : Failure) :
    Obstacle.source.Stops r arguments t e ↔ (t.read c.source).mapError .file = .error e := by
  rw [mapError_eq_error_iff]
  constructor
  · rintro ⟨path, fault, hpath, hread, he⟩
    obtain rfl := Option.some.inj ((paths_of_ofArguments hc).1.symm.trans hpath)
    exact ⟨fault, hread, he⟩
  · rintro ⟨fault, hread, he⟩
    exact ⟨_, fault, (paths_of_ofArguments hc).1, hread, he⟩

lemma stops_target_iff (hc : ofArguments arguments = .ok c) (e : Failure) :
    Obstacle.target.Stops r arguments t e ↔ (t.write c.target []).mapError .file = .error e := by
  rw [mapError_eq_error_iff]
  constructor
  · rintro ⟨path, fault, hpath, hwrite, he⟩
    obtain rfl := Option.some.inj ((paths_of_ofArguments hc).2.symm.trans hpath)
    exact ⟨fault, hwrite, he⟩
  · rintro ⟨fault, hwrite, he⟩
    exact ⟨_, fault, (paths_of_ofArguments hc).2, hwrite, he⟩

/-! The steps that follow the reading of the input file. -/

lemma hasInput_iff (hin : HasInput arguments t data) {data' : Bytes} :
    HasInput arguments t data' ↔ data' = data := by
  constructor
  · rintro ⟨path', hpath', hread'⟩
    obtain ⟨path, hpath, hread⟩ := hin
    obtain rfl := Option.some.inj (hpath.symm.trans hpath')
    exact Except.ok.inj (hread'.symm.trans hread)
  · rintro rfl
    exact hin

lemma hasPicture_iff (hin : HasInput arguments t data) (hstart : r.start data = .ok (header, rest))
    {header' : Png.Header} {rest' : σ} :
    HasPicture r arguments t header' rest' ↔ header' = header ∧ rest' = rest := by
  constructor
  · rintro ⟨data', hin', hstart'⟩
    obtain rfl := (hasInput_iff hin).1 hin'
    exact Prod.mk.inj (Except.ok.inj (hstart'.symm.trans hstart))
  · rintro ⟨rfl, rfl⟩
    exact ⟨data, hin, hstart⟩

lemma stops_header_iff (hin : HasInput arguments t data) (e : Failure) :
    Obstacle.header.Stops r arguments t e ↔ (r.start data).mapError .png = .error e := by
  rw [mapError_eq_error_iff]
  constructor
  · rintro ⟨data', fault, hin', hstart, he⟩
    obtain rfl := (hasInput_iff hin).1 hin'
    exact ⟨fault, hstart, he⟩
  · rintro ⟨fault, hstart, he⟩
    exact ⟨data, fault, hin, hstart, he⟩

lemma rgbaOfSamples_rgb (samples : Bytes) :
    rgbaOfSamples .rgb samples =
      require (samples.length / 3 * 4 ≤ maxCapacity) (.panic .capacity) >>= fun _ =>
        .ok ((pieces (samples.length / 3) 3 samples).flatMap (· ++ [0xff])) := rfl

lemma rgbaOfSamples_of_not_mem {colorType : Png.ColorType} (h : colorType ∉ [.rgb, .rgba])
    (samples : Bytes) : rgbaOfSamples colorType samples = .error (.colorType colorType) := by
  cases colorType <;> simp_all [rgbaOfSamples]

/-- Of the pictures in RGB or RGBA, those in RGB need another buffer. -/
lemma rgbaOfSamples_eq_error_iff {colorType : Png.ColorType} (h : colorType ∈ [.rgb, .rgba])
    {samples : Bytes} {e : Failure} :
    rgbaOfSamples colorType samples = .error e ↔
      colorType = .rgb ∧ maxCapacity < samples.length / 3 * 4 ∧ e = .panic .capacity := by
  rcases List.mem_pair.1 h with rfl | rfl
  · rw [rgbaOfSamples_rgb]
    by_cases hroom : samples.length / 3 * 4 ≤ maxCapacity
    · rw [require_bind hroom]
      exact iff_of_false nofun fun h => Nat.not_lt.2 hroom h.2.1
    · rw [require_bind_of_not hroom, Except.error.injEq, eq_comm]
      simp [Nat.lt_of_not_le hroom]
  · simp [rgbaOfSamples]

section Picture

variable (hin : HasInput arguments t data) (hstart : r.start data = .ok (header, rest))

include hin hstart

lemma stops_depth_iff (e : Failure) :
    Obstacle.depth.Stops r arguments t e ↔
      require (header.depth = .eight) (.depth header.depth) = .error e := by
  rw [require_eq_error_iff]
  constructor
  · rintro ⟨header', rest', hpicture, hdepth, rfl⟩
    obtain ⟨rfl, rfl⟩ := (hasPicture_iff hin hstart).1 hpicture
    exact ⟨hdepth, rfl⟩
  · rintro ⟨hdepth, rfl⟩
    exact ⟨header, rest, (hasPicture_iff hin hstart).2 ⟨rfl, rfl⟩, hdepth, rfl⟩

lemma stops_buffer_iff (e : Failure) :
    Obstacle.buffer.Stops r arguments t e ↔
      require (r.bufferSize rest ≤ maxCapacity) (.panic .capacity) = .error e := by
  rw [require_eq_error_iff, Nat.not_le]
  constructor
  · rintro ⟨header', rest', hpicture, hsize, rfl⟩
    obtain ⟨rfl, rfl⟩ := (hasPicture_iff hin hstart).1 hpicture
    exact ⟨hsize, rfl⟩
  · rintro ⟨hsize, rfl⟩
    exact ⟨header, rest, (hasPicture_iff hin hstart).2 ⟨rfl, rfl⟩, hsize, rfl⟩

lemma stops_samples_iff (e : Failure) :
    Obstacle.samples.Stops r arguments t e ↔ (r.samples rest).mapError .png = .error e := by
  rw [mapError_eq_error_iff]
  constructor
  · rintro ⟨header', rest', fault, hpicture, hsamples, he⟩
    obtain ⟨rfl, rfl⟩ := (hasPicture_iff hin hstart).1 hpicture
    exact ⟨fault, hsamples, he⟩
  · rintro ⟨fault, hsamples, he⟩
    exact ⟨header, rest, fault, (hasPicture_iff hin hstart).2 ⟨rfl, rfl⟩, hsamples, he⟩

lemma stops_colorType_iff (e : Failure) :
    Obstacle.colorType.Stops r arguments t e ↔
      header.colorType ∉ [.rgb, .rgba] ∧ e = .colorType header.colorType := by
  constructor
  · rintro ⟨header', rest', hpicture, hcolor, he⟩
    obtain ⟨rfl, rfl⟩ := (hasPicture_iff hin hstart).1 hpicture
    exact ⟨hcolor, he⟩
  · rintro ⟨hcolor, he⟩
    exact ⟨header, rest, (hasPicture_iff hin hstart).2 ⟨rfl, rfl⟩, hcolor, he⟩

lemma stops_widening_iff (hdepth : header.depth = .eight) {samples : Bytes}
    (hsamples : r.samples rest = .ok samples) (e : Failure) :
    Obstacle.widening.Stops r arguments t e ↔
      header.colorType = .rgb ∧ maxCapacity < samples.length / 3 * 4 ∧ e = .panic .capacity := by
  constructor
  · rintro ⟨header', rest', samples', hpicture, -, hsamples', hfailure⟩
    obtain ⟨rfl, rfl⟩ := (hasPicture_iff hin hstart).1 hpicture
    obtain rfl := Except.ok.inj (hsamples'.symm.trans hsamples)
    exact hfailure
  · exact fun hfailure => ⟨header, rest, samples, (hasPicture_iff hin hstart).2 ⟨rfl, rfl⟩, hdepth,
      hsamples, hfailure⟩

/-- The samples become pixels if the color type is one of two and there is room for the pixels. -/
lemma firstOf_rgbaOfSamples (hdepth : header.depth = .eight) {samples : Bytes}
    (hsamples : r.samples rest = .ok samples) :
    FirstOf [Obstacle.colorType.Stops r arguments t, Obstacle.widening.Stops r arguments t]
      (rgbaOfSamples header.colorType samples) := by
  by_cases hcolor : header.colorType ∈ [.rgb, .rgba]
  · have hnot : ∀ e, ¬ Obstacle.colorType.Stops r arguments t e := fun e he =>
      ((stops_colorType_iff hin hstart e).1 he).1 hcolor
    refine .later hnot (.single fun e => ?_)
    rw [stops_widening_iff hin hstart hdepth hsamples, rgbaOfSamples_eq_error_iff hcolor]
  · rw [rgbaOfSamples_of_not_mem hcolor]
    refine .here fun e => ?_
    rw [stops_colorType_iff hin hstart, and_iff_right hcolor]

lemma stops_pixels_iff (hdepth : header.depth = .eight) {samples pixels : Bytes}
    (hsamples : r.samples rest = .ok samples)
    (hpixels : rgbaOfSamples header.colorType samples = .ok pixels) (e : Failure) :
    Obstacle.pixels.Stops r arguments t e ↔
      (Bitmap.ofPixels header.width header.height pixels).mapError .bitmap = .error e := by
  rw [mapError_eq_error_iff]
  constructor
  · rintro ⟨header', rest', samples', pixels', error, hpicture, -, hsamples', hpixels', hmade, he⟩
    obtain ⟨rfl, rfl⟩ := (hasPicture_iff hin hstart).1 hpicture
    obtain rfl := Except.ok.inj (hsamples'.symm.trans hsamples)
    obtain rfl := Except.ok.inj (hpixels'.symm.trans hpixels)
    exact ⟨error, hmade, he⟩
  · rintro ⟨error, hmade, he⟩
    exact ⟨header, rest, samples, pixels, error, (hasPicture_iff hin hstart).2 ⟨rfl, rfl⟩, hdepth,
      hsamples, hpixels, hmade, he⟩

end Picture

/-- The bitmap of a picture is made in six steps. -/
lemma bitmapOf_eq_bind (r : Png.Reader σ) (data : Bytes) :
    bitmapOf r data = (r.start data).mapError .png >>= fun p =>
      require (p.1.depth = .eight) (.depth p.1.depth) >>= fun _ =>
        require (r.bufferSize p.2 ≤ maxCapacity) (.panic .capacity) >>= fun _ =>
          (r.samples p.2).mapError .png >>= fun samples =>
            rgbaOfSamples p.1.colorType samples >>= fun pixels =>
              (Bitmap.ofPixels p.1.width p.1.height pixels).mapError .bitmap := rfl

lemma firstOf_bitmapOf (hin : HasInput arguments t data) :
    FirstOf (Obstacle.inPicture.map fun o => o.Stops r arguments t) (bitmapOf r data) := by
  rw [bitmapOf_eq_bind]
  refine (FirstOf.single (stops_header_iff (r := r) hin)).bind ?_
  rintro ⟨header, rest⟩ hheader
  have hstart := mapError_eq_ok_iff.1 hheader
  refine (FirstOf.single (stops_depth_iff hin hstart)).bind fun _ hdepth => ?_
  refine (FirstOf.single (stops_buffer_iff hin hstart)).bind fun _ _ => ?_
  refine (FirstOf.single (stops_samples_iff hin hstart)).bind fun samples hsamples => ?_
  rw [require_eq_ok_iff] at hdepth
  rw [mapError_eq_ok_iff] at hsamples
  refine (firstOf_rgbaOfSamples hin hstart hdepth hsamples).bind fun pixels hpixels => ?_
  exact FirstOf.single (stops_pixels_iff hin hstart hdepth hsamples hpixels)

/-- The steps meet the obstacles in their order. -/
lemma firstOf_prepare (r : Png.Reader σ) (arguments : List String) (t : FileTree) :
    FirstOf (Obstacle.order.map fun o => o.Stops r arguments t) (prepare r arguments t) := by
  refine (FirstOf.single stops_usage_iff).bind fun c hc => ?_
  refine (FirstOf.single (stops_source_iff hc)).bind fun data hdata => ?_
  have hin : HasInput arguments t data :=
    ⟨c.source, (paths_of_ofArguments hc).1, mapError_eq_ok_iff.1 hdata⟩
  refine (firstOf_bitmapOf (r := r) hin).bind fun b _ => ?_
  exact (FirstOf.single (stops_target_iff hc)).bind fun created _ => FirstOf.done (c, b, created)

/-! ## What becomes of the files -/

lemma runWith_of_prepare_eq_error {e : Failure} (h : prepare r arguments t = .error e) :
    runWith r arguments t = (.error e, t) := by
  rw [runWith_eq_finish, h, finish]

/-- Once the output file has been created, it is filled or it is left empty. -/
lemma runWith_of_prepare_eq_ok {b : Bitmap} {created : FileTree}
    (h : prepare r arguments t = .ok (c, b, created)) :
    ofArguments arguments = .ok c ∧ t.write c.target [] = .ok created ∧
      runWith r arguments t =
        match b.encode c.format with
        | .error e => (.error (.bitmap e), created)
        | .ok bytes => (.ok (), created.insert (FileTree.location c.target) (.file bytes)) := by
  have hrun : runWith r arguments t = finish t (.ok (c, b, created)) := by
    rw [runWith_eq_finish, h]
  obtain ⟨c', hc, h⟩ := bind_eq_ok_iff.1 h
  obtain ⟨data, -, h⟩ := bind_eq_ok_iff.1 h
  obtain ⟨b', -, h⟩ := bind_eq_ok_iff.1 h
  obtain ⟨created', hcreated, h⟩ := bind_eq_ok_iff.1 h
  obtain ⟨rfl, hpair⟩ := Prod.ext_iff.1 (Except.ok.inj h)
  obtain ⟨rfl, rfl⟩ := Prod.ext_iff.1 hpair
  have hcreate := mapError_eq_ok_iff.1 hcreated
  refine ⟨hc, hcreate, hrun.trans ?_⟩
  cases hbytes : b'.encode c'.format with
  | error e => simp only [finish, hbytes, Except.mapError]
  | ok bytes =>
    have hwrite := FileTree.write_of_write hcreate bytes
    simp only [finish, hbytes, hwrite, Except.mapError]

/-! ## What stops a conversion -/

/-- A reader that gives all samples of a picture gives those of a bitmap. -/
lemma not_stops_pixels (hr : r.IsWhole) (e : Failure) :
    ¬ Obstacle.pixels.Stops r arguments t e := by
  rintro ⟨header, rest, samples, pixels, error, ⟨data, -, hstart⟩, hdepth, hsamples, hpixels,
    hmade, -⟩
  obtain ⟨hwidth, hheight, hwhole⟩ := hr data header rest hstart
  -- there are pixels, so neither the color type nor the room for them was in the way
  have hcolor : header.colorType ∈ [.rgb, .rgba] := by
    by_contra hnot
    rw [rgbaOfSamples_of_not_mem hnot] at hpixels
    cases hpixels
  have hroom : header.colorType = .rgb → samples.length / 3 * 4 ≤ maxCapacity := by
    intro hrgb
    by_contra hnot
    rw [(rgbaOfSamples_eq_error_iff hcolor).2 ⟨hrgb, Nat.lt_of_not_le hnot, rfl⟩] at hpixels
    cases hpixels
  obtain ⟨pixels', hpixels', hlength, -⟩ :=
    exists_of_rgbaOfSamples (List.mem_pair.1 hcolor) (hwhole hdepth samples hsamples) hroom
  obtain rfl := Except.ok.inj (hpixels'.symm.trans hpixels)
  obtain ⟨b, hb⟩ := Bitmap.exists_ofPixels_iff.2 ⟨hwidth.ne', hheight.ne', hlength⟩
  rw [hmade] at hb
  cases hb

/-- Only the arguments lead to the usage error. -/
lemma not_understood_of_stops {o : Obstacle} (h : o.Stops r arguments t .usage) :
    ¬ Understood arguments := by
  cases o with
  | usage => exact h.1
  | _ => simp [Obstacle.Stops] at h

/-- The first obstacle that is met is reported, and the files are as they were. -/
lemma runWith_of_first {before after : List Obstacle} {o : Obstacle} {e : Failure}
    (horder : Obstacle.order = before ++ o :: after)
    (hbefore : ∀ q ∈ before, ∀ e', ¬ q.Stops r arguments t e') (ho : o.Stops r arguments t e) :
    runWith r arguments t = (.error e, t) := by
  have hfirst := firstOf_prepare r arguments t
  rw [horder, List.map_append, List.map_cons] at hfirst
  exact runWith_of_prepare_eq_error (hfirst.eq_error (List.forall_mem_map.2 hbefore) ho)

/-- A conversion that meets no obstacle has created its output file, and fills it or leaves it
empty. -/
lemma runWith_of_none (hnone : ∀ o ∈ Obstacle.order, ∀ e, ¬ o.Stops r arguments t e) :
    ∃ path created, arguments[1]? = some path ∧ t.write path [] = .ok created ∧
      ((∃ e, runWith r arguments t = (.error (.bitmap e), created)) ∨
        ∃ bytes, runWith r arguments t =
          (.ok (), created.insert (FileTree.location path) (.file bytes))) := by
  obtain ⟨⟨c, b, created⟩, hprepare⟩ :=
    (firstOf_prepare r arguments t).exists_eq_ok (List.forall_mem_map.2 hnone)
  obtain ⟨hc, hcreate, hrun⟩ := runWith_of_prepare_eq_ok hprepare
  refine ⟨c.target, created, (paths_of_ofArguments hc).2, hcreate, ?_⟩
  rw [hrun]
  cases b.encode c.format with
  | error e => exact Or.inl ⟨e, rfl⟩
  | ok bytes => exact Or.inr ⟨bytes, rfl⟩

lemma runWith_eq_usage_iff :
    (runWith r arguments t).1 = .error .usage ↔ ¬ Understood arguments := by
  constructor
  · intro hrun
    cases hprepare : prepare r arguments t with
    | error e =>
      rw [runWith_of_prepare_eq_error hprepare] at hrun
      obtain rfl := Except.error.inj hrun
      obtain ⟨p, hp, hstops⟩ := (firstOf_prepare r arguments t).exists_of_eq_error hprepare
      obtain ⟨o, -, rfl⟩ := List.mem_map.1 hp
      exact not_understood_of_stops hstops
    | ok prepared =>
      obtain ⟨c, b, created⟩ := prepared
      rw [(runWith_of_prepare_eq_ok hprepare).2.2] at hrun
      cases hbytes : b.encode c.format with
      | error e => rw [hbytes] at hrun; cases hrun
      | ok bytes => rw [hbytes] at hrun; cases hrun
  · intro hnot
    have horder : Obstacle.order = [] ++ .usage :: Obstacle.order.tail := rfl
    have hstops : Obstacle.usage.Stops r arguments t .usage := ⟨hnot, rfl⟩
    rw [runWith_of_first horder (List.forall_mem_nil _) hstops]

/-- A failure is told in a line, unless it is that of a buffer. -/
lemma report_of_stops {o : Obstacle} (h : o.Stops r arguments t e) :
    report (.error e) =
      if o ∈ Obstacle.buffers then ⟨101, ""⟩ else ⟨1, s!"Error: {e.message}\n"⟩ := by
  cases o with
  | usage =>
    obtain ⟨-, rfl⟩ := h
    rfl
  | source | target =>
    obtain ⟨path, fault, -, -, rfl⟩ := h
    rfl
  | header =>
    obtain ⟨data, fault, -, -, rfl⟩ := h
    rfl
  | depth | buffer | colorType =>
    obtain ⟨header, rest, -, -, rfl⟩ := h
    rfl
  | samples =>
    obtain ⟨header, rest, fault, -, -, rfl⟩ := h
    rfl
  | widening =>
    obtain ⟨header, rest, samples, -, -, -, -, -, rfl⟩ := h
    rfl
  | pixels =>
    obtain ⟨header, rest, samples, pixels, error, -, -, -, -, -, rfl⟩ := h
    rfl

/-- **What stops a conversion.**  Whatever the arguments and the files are and whatever a reader of
PNG files finds, a conversion that meets obstacles ends with the first of them and leaves all files
as they were.  It reports the obstacle and exits with 1, except for the buffers, which are panics.
A conversion that meets none has created its output file.  The arguments are an obstacle, and the
usage is told, if and only if they are neither two nor three with the flag as the third; and the
samples of a picture do make up a bitmap if the reader gives all of them. -/
theorem runWith_stopped (r : Png.Reader σ) (arguments : List String) (t : FileTree) :
    (∀ before o after e, Obstacle.order = before ++ o :: after →
      (∀ q ∈ before, ∀ e', ¬ q.Stops r arguments t e') → o.Stops r arguments t e →
        runWith r arguments t = (.error e, t) ∧
          report (runWith r arguments t).1 =
            if o ∈ Obstacle.buffers then ⟨101, ""⟩ else ⟨1, s!"Error: {e.message}\n"⟩) ∧
    ((∀ o ∈ Obstacle.order, ∀ e, ¬ o.Stops r arguments t e) →
      ∃ path created, arguments[1]? = some path ∧ t.write path [] = .ok created ∧
        ((∃ e, runWith r arguments t = (.error (.bitmap e), created)) ∨
          ∃ bytes, runWith r arguments t =
            (.ok (), created.insert (FileTree.location path) (.file bytes)))) ∧
    ((runWith r arguments t).1 = .error .usage ↔ ¬ Understood arguments) ∧
    (r.IsWhole → ∀ e, ¬ Obstacle.pixels.Stops r arguments t e) := by
  refine ⟨fun before o after e horder hbefore ho => ?_, runWith_of_none, runWith_eq_usage_iff,
    not_stops_pixels⟩
  have hrun := runWith_of_first horder hbefore ho
  rw [hrun]
  exact ⟨rfl, report_of_stops ho⟩

end Conversion

end Raster
