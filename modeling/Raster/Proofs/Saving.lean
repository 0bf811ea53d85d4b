import Raster.Proofs.Files
import Raster.Proofs.Limits
import Raster.Proofs.Sessions
import Raster.Proofs.TornWrites
import Mathlib

/-!
# Saving and loading

A session saves the bitmap that one canvas shows and later loads the file into another.  In between
anything can happen that leaves the file alone (`Session.Act.changedFile?`): then the path still
names the file, with the bytes that were written (`Session.keeps_run`).  Whether the load succeeds
depends on the limits of the loader alone (`Loader.value_read_file`), the size of the file being
judged before it is read and the dimensions after that; the canvas then shows what the format keeps
of the bitmap (`Session.tryLoad_saved`).
-/

namespace Raster

open Bmp Wrapped

/-! ## Reading a file that is there -/

namespace Loader

variable {l : Loader} {t : FileTree} {path : String} {b : Bitmap} {f : PixelFormat}

/-- A file that is there is read if it is not too large. -/
lemma value_read_of_stat {data : Bytes} (h : t.stat path = .ok (.file data)) :
    (l.read t path).value =
      l.limits.checkFileSize data.length >>= fun _ => (Bitmap.decode l.limits data).value := by
  rw [read_eq, h, Limits.checkFileSize]
  dsimp only
  by_cases hsize : data.length ≤ l.limits.maxFileSize
  · rw [require_bind hsize]
    exact congrArg Logged.value (if_pos hsize)
  · rw [require_bind_of_not hsize]
    exact congrArg Logged.value (if_neg hsize)

/-- A saved file is read if the limits admit the file and the bitmap. -/
lemma value_read_file (hfits : f.Fits b.width b.height)
    (h : t.stat path = .ok (.file (b.file f))) (hwidth : b.width ≤ l.limits.maxWidth)
    (hheight : b.height ≤ l.limits.maxHeight) (hsize : (b.file f).length ≤ l.limits.maxFileSize) :
    (l.read t path).value = .ok (b.readBack f) := by
  rw [value_read_of_stat h, Limits.checkFileSize, require_bind hsize,
    Bitmap.decode_file_of_le hfits hwidth hheight]

/-- Otherwise a limit is reported. -/
lemma exists_value_read_file (hfits : f.Fits b.width b.height)
    (h : t.stat path = .ok (.file (b.file f)))
    (hlimits : ¬ (b.width ≤ l.limits.maxWidth ∧ b.height ≤ l.limits.maxHeight ∧
      (b.file f).length ≤ l.limits.maxFileSize)) :
    ∃ e, (l.read t path).value = .error e ∧ e.kind = .unsupported := by
  rw [value_read_of_stat h, Limits.checkFileSize]
  by_cases hsize : (b.file f).length ≤ l.limits.maxFileSize
  · -- the file is read, and then its dimensions are judged
    have hdimensions : ¬ (b.width ≤ l.limits.maxWidth ∧ b.height ≤ l.limits.maxHeight) :=
      fun hle => hlimits ⟨hle.1, hle.2, hsize⟩
    rw [require_bind hsize, Bitmap.value_decode_file hfits, Limits.checkDimensions,
      require_bind_of_not hdimensions]
    exact ⟨_, rfl, rfl⟩
  · rw [require_bind_of_not hsize]
    exact ⟨_, rfl, rfl⟩

end Loader

namespace Session

variable {s s' : Session} {loc : Location}

/-! ## Acts that leave a file alone -/

/-- The path of the file that an act writes or removes. -/
def Act.changedFile? : Act → Option String
  | .step (.write file _) | .step (.remove file) | .step (.save _ file _) => some file
  | _ => none

lemma files_dropCanvas (s : Session) (name : String) : (s.dropCanvas name).files = s.files := by
  rw [dropCanvas]
  split <;> rfl

/-- A step keeps the files that it does not write or remove. -/
lemma keeps_step {a : Step} {r : Logged Reply} (h : s.step a = .ok (s', r))
    (hne : ∀ file ∈ (Act.step a).changedFile?, FileTree.location file ≠ loc) :
    FileTree.Keeps loc s.files s'.files := by
  cases a with
  | write file data =>
    obtain ⟨files, hfiles, h⟩ := bind_eq_ok_iff.1 h
    cases h
    exact FileTree.keeps_plant (mapError_eq_ok_iff.1 hfiles) (hne file rfl)
  | makeDirectory file =>
    obtain ⟨files, hfiles, h⟩ := bind_eq_ok_iff.1 h
    cases h
    exact FileTree.keeps_makeDirectories (mapError_eq_ok_iff.1 hfiles)
  | remove file =>
    obtain ⟨files, hfiles, h⟩ := bind_eq_ok_iff.1 h
    cases h
    exact FileTree.keeps_remove (mapError_eq_ok_iff.1 hfiles) (hne file rfl)
  | loader name limits =>
    cases h
    exact .refl loc s.files
  | tracker name =>
    cases h
    exact .refl loc s.files
  | canvas name tracker =>
    obtain ⟨t, -, h⟩ := bind_eq_ok_iff.1 h
    cases h
    show FileTree.Keeps loc s.files (s.dropCanvas name).files
    rw [files_dropCanvas]
    exact .refl loc s.files
  | drop name =>
    obtain ⟨c, -, h⟩ := bind_eq_ok_iff.1 h
    cases h
    rw [files_dropCanvas]
    exact .refl loc s.files
  | release name =>
    obtain ⟨c, -, h⟩ := bind_eq_ok_iff.1 h
    cases h
    exact .refl loc s.files
  | load name file loader route =>
    rw [step_load] at h
    obtain ⟨c, -, h⟩ := bind_eq_ok_iff.1 h
    obtain ⟨l, -, h⟩ := bind_eq_ok_iff.1 h
    cases h
    exact .refl loc s.files
  | tryLoad name file loader route =>
    obtain ⟨c, -, h⟩ := bind_eq_ok_iff.1 h
    obtain ⟨l, -, h⟩ := bind_eq_ok_iff.1 h
    cases h
    exact .refl loc s.files
  | read file loader =>
    obtain ⟨l, -, h⟩ := bind_eq_ok_iff.1 h
    cases h
    exact .refl loc s.files
  | select name width height pixels =>
    obtain ⟨c, -, h⟩ := bind_eq_ok_iff.1 h
    split at h
    · cases h
      exact .refl loc s.files
    · cases h
      exact .refl loc s.files
  | save name file format =>
    obtain ⟨c, -, h⟩ := bind_eq_ok_iff.1 h
    split at h
    · cases h
      exact .refl loc s.files
    · obtain ⟨bytes, -, h⟩ := bind_eq_ok_iff.1 h
      obtain ⟨files, hfiles, h⟩ := bind_eq_ok_iff.1 h
      cases h
      exact FileTree.keeps_write (mapError_eq_ok_iff.1 hfiles) (hne file rfl)
  | pixel name x y =>
    obtain ⟨c, -, h⟩ := bind_eq_ok_iff.1 h
    cases h
    exact .refl loc s.files
  | bitmap name =>
    obtain ⟨c, -, h⟩ := bind_eq_ok_iff.1 h
    cases h
    exact .refl loc s.files
  | display name pretty =>
    obtain ⟨c, -, h⟩ := bind_eq_ok_iff.1 h
    cases h
    exact .refl loc s.files

lemma keeps_act (s : Session) {a : Act}
    (hne : ∀ file ∈ a.changedFile?, FileTree.location file ≠ loc) :
    FileTree.Keeps loc s.files (s.act a).files := by
  cases a with
  | step a =>
    rw [act]
    split
    · next h => exact keeps_step h hne
    · exact .refl loc s.files
  | call name k =>
    rw [act]
    split
    · exact .refl loc s.files
    · exact .refl loc s.files

/-- A run keeps the files that none of its acts writes or removes. -/
lemma keeps_run (s : Session) {acts : List Act}
    (hne : ∀ a ∈ acts, ∀ file ∈ a.changedFile?, FileTree.location file ≠ loc) :
    FileTree.Keeps loc s.files (s.run acts).files := by
  induction acts generalizing s with
  | nil => exact .refl loc s.files
  | cons a acts ih =>
    rw [List.forall_mem_cons] at hne
    exact (s.keeps_act hne.1).trans (ih (s.act a) hne.2)

/-! ## Saving, then loading -/

/-- A save writes to the file what the bitmap of the canvas writes to a sink that has room. -/
theorem step_save {source file : String} {f : PixelFormat} {c : Canvas} {b : Bitmap}
    {capacity : Nat} {sink : Sink} (hc : s.canvases.get? source = some c)
    (hb : c.selected = some b)
    (hwrite : b.writeTo f (Sink.ofCapacity capacity) = (.ok (), sink)) :
    s.step (.save source file f) =
      (s.files.write file sink.written).mapError (.file file) >>= fun files =>
        silent { s with files } (.saved true) := by
  have hfind : s.findCanvas source = .ok c := by
    rw [findCanvas, hc]
  obtain ⟨hencode, -⟩ := Bitmap.writeTo_eq_ok_iff.1 hwrite
  rw [step, hfind, ok_bind, hb]
  dsimp only
  rw [hencode]
  rfl

/-- A save that is not refused writes the file of the bitmap that the canvas shows. -/
lemma stat_of_save {source file : String} {f : PixelFormat} {r : Logged Reply} {c : Canvas}
    {b : Bitmap} (hc : s.canvases.get? source = some c) (hb : c.selected = some b)
    (h : s.step (.save source file f) = .ok (s', r)) :
    ∃ bytes, b.encode f = .ok bytes ∧ s'.files.stat file = .ok (.file bytes) := by
  obtain ⟨c', hc', h⟩ := bind_eq_ok_iff.1 h
  obtain rfl : c' = c := Option.some.inj ((get?_of_findCanvas hc').symm.trans hc)
  rw [hb] at h
  obtain ⟨bytes, hbytes, h⟩ := bind_eq_ok_iff.1 h
  obtain ⟨files, hfiles, h⟩ := bind_eq_ok_iff.1 h
  cases h
  exact ⟨bytes, mapError_eq_ok_iff.1 hbytes, FileTree.stat_write (mapError_eq_ok_iff.1 hfiles)⟩

/-- A load into a valid canvas, by any route, is settled by the file. -/
lemma value_tryLoadBy_of_valid {t : TrackedCanvas} (ht : t.canvas.valid = true) (l : Loader)
    (files : FileTree) (file : String) (route : Route) :
    (tryLoadBy l files file t route).value =
      match (l.read files file).value with
      | .error e => (.error e, t)
      | .ok b => (.ok (), (t.select b).2) := by
  have hwrap : (tryLoadBy l files file t route).value =
      ((l.tryLoad files file (wrap route.wrappers t)).value.1,
        core route.wrappers (l.tryLoad files file (wrap route.wrappers t)).value.2) := by
    cases route <;> rfl
  have hvalid : Surface.isValid t = true := ht
  rw [hwrap, Loader.value_tryLoad_wrap, if_pos (Or.inr hvalid)]
  cases (l.read files file).value with
  | error e =>
    dsimp only
    rw [core_wrap]
  | ok b =>
    dsimp only
    rw [core_wrap, TrackedCanvas.surface_select, TrackedCanvas.select_of_valid ht]

section TryLoad

variable {target file : String} {loader : Option String} {d : Canvas} {l : Loader}

lemma step_tryLoad (hd : s.canvases.get? target = some d) (hl : s.findLoader loader = .ok l)
    (route : Route) :
    s.step (.tryLoad target file loader route) =
      .ok (s.put target (tryLoadBy l s.files file (s.tracked d) route).value.2,
        (tryLoadBy l s.files file (s.tracked d) route).map fun r => .outcome r.1) := by
  have hfind : s.findCanvas target = .ok d := by
    rw [findCanvas, hd]
  rw [step, hfind, ok_bind, hl, ok_bind]
  rfl

/-- A valid canvas shows what was read. -/
lemma step_tryLoad_of_read {b : Bitmap} (hd : s.canvases.get? target = some d)
    (hvalid : d.valid = true) (hl : s.findLoader loader = .ok l) (route : Route)
    (hread : (l.read s.files file).value = .ok b) :
    ∃ log, s.step (.tryLoad target file loader route) =
      .ok (s.put target ⟨{ d with selected := some b }, d.discount (s.counters.acquire d.tracker)⟩,
        ⟨.outcome (.ok ()), log⟩) := by
  have hresult := value_tryLoadBy_of_valid (t := s.tracked d) hvalid l s.files file route
  rw [hread] at hresult
  refine ⟨(tryLoadBy l s.files file (s.tracked d) route).log, ?_⟩
  rw [step_tryLoad hd hl, Logged.map, hresult]
  dsimp only
  rw [TrackedCanvas.select_of_valid (s := s.tracked d) hvalid]
  rfl

/-- If nothing was read, the canvas is put back as it was. -/
lemma step_tryLoad_of_error {e : Error} (hd : s.canvases.get? target = some d)
    (hvalid : d.valid = true) (hl : s.findLoader loader = .ok l) (route : Route)
    (hread : (l.read s.files file).value = .error e) :
    ∃ log, s.step (.tryLoad target file loader route) =
      .ok (s.put target (s.tracked d), ⟨.outcome (.error e), log⟩) := by
  have hresult := value_tryLoadBy_of_valid (t := s.tracked d) hvalid l s.files file route
  rw [hread] at hresult
  refine ⟨(tryLoadBy l s.files file (s.tracked d) route).log, ?_⟩
  rw [step_tryLoad hd hl, Logged.map, hresult]

lemma get?_canvases_put_self (s : Session) (t : TrackedCanvas) :
    (s.put target t).canvases.get? target = some t.canvas := by
  rw [put, Dictionary.get?_insert, if_pos rfl]

lemma get?_canvases_put_of_ne (s : Session) (t : TrackedCanvas) {name : String}
    (hne : name ≠ target) : (s.put target t).canvases.get? name = s.canvases.get? name := by
  rw [put, Dictionary.get?_insert, if_neg hne]

end TryLoad

/-- **Saving and loading.**  The bitmap of a canvas is saved, and after a run that leaves the file
alone it is loaded into a valid canvas, the same or another.  The load succeeds if and only if the
limits of the loader admit the dimensions of the bitmap and the size of its file.  If it succeeds
the canvas shows what the format keeps of the bitmap; if not, the error says that the file is not
supported, and the canvas is as it was.  All other canvases and the files are as they were. -/
theorem tryLoad_saved {s s₁ : Session} {source target file : String} {c d : Canvas} {b : Bitmap}
    {f : PixelFormat} {bytes : Bytes} {reply : Logged Reply} {acts : List Act}
    {loader : Option String} {l : Loader} (route : Route)
    (hc : s.canvases.get? source = some c) (hb : c.selected = some b)
    (hencode : b.encode f = .ok bytes)
    (hsave : s.step (.save source file f) = .ok (s₁, reply))
    (hacts : ∀ a ∈ acts, ∀ other ∈ a.changedFile?,
      FileTree.location other ≠ FileTree.location file)
    (hd : (s₁.run acts).canvases.get? target = some d) (hvalid : d.valid = true)
    (hl : (s₁.run acts).findLoader loader = .ok l) :
    ∃ s₂ outcome log,
      (s₁.run acts).step (.tryLoad target file loader route) =
        .ok (s₂, ⟨.outcome outcome, log⟩) ∧
      (outcome = .ok () ↔ b.width ≤ l.limits.maxWidth ∧ b.height ≤ l.limits.maxHeight ∧
        bytes.length ≤ l.limits.maxFileSize) ∧
      (outcome = .ok () → s₂.canvases.get? target = some { d with
        selected := some (match f with
          | .bgr24 => b.withAlpha 0xff
          | .bgra32 => b) }) ∧
      (∀ e, outcome = .error e → e.kind = .unsupported ∧ s₂.canvases.get? target = some d ∧
        s₂.counters = (s₁.run acts).counters) ∧
      (∀ name ≠ target, s₂.canvases.get? name = (s₁.run acts).canvases.get? name) ∧
      s₂.files = (s₁.run acts).files ∧ s₂.files.read file = .ok bytes := by
  obtain ⟨bytes', hencode', hstat⟩ := stat_of_save hc hb hsave
  obtain rfl : bytes' = bytes := Except.ok.inj (hencode'.symm.trans hencode)
  obtain ⟨hfits, rfl⟩ := Bitmap.encode_eq_ok_iff.1 hencode
  -- what was done since the save left the file where it was
  generalize hs : s₁.run acts = s' at *
  have hfile : s'.files.stat file = .ok (.file (b.file f)) :=
    (hs ▸ s₁.keeps_run hacts).stat hstat
  have hbytes : s'.files.read file = .ok (b.file f) := FileTree.read_of_stat hfile
  by_cases hlimits : b.width ≤ l.limits.maxWidth ∧ b.height ≤ l.limits.maxHeight ∧
      (b.file f).length ≤ l.limits.maxFileSize
  · obtain ⟨hwidth, hheight, hsize⟩ := hlimits
    have hread := Loader.value_read_file hfits hfile hwidth hheight hsize
    obtain ⟨log, hstep⟩ := step_tryLoad_of_read hd hvalid hl route hread
    refine ⟨_, _, log, hstep, iff_of_true rfl ⟨hwidth, hheight, hsize⟩, fun _ => ?_, nofun,
      fun name hne => get?_canvases_put_of_ne s' _ hne, rfl, hbytes⟩
    cases f with
    | bgr24 => exact get?_canvases_put_self s' _
    | bgra32 => exact get?_canvases_put_self s' _
  · obtain ⟨e, hread, hkind⟩ := Loader.exists_value_read_file hfits hfile hlimits
    obtain ⟨log, hstep⟩ := step_tryLoad_of_error hd hvalid hl route hread
    refine ⟨_, _, log, hstep, iff_of_false nofun hlimits, nofun, fun e' he' => ?_,
      fun name hne => get?_canvases_put_of_ne s' _ hne, rfl, hbytes⟩
    obtain rfl : e = e' := Except.error.inj he'
    exact ⟨hkind, get?_canvases_put_self s' _, rfl⟩

/-- A session in which a canvas shows the sample bitmap. -/
def showing : Session :=
  { empty with canvases := Dictionary.empty.insert "a" ⟨true, some Bitmap.sample, none⟩ }

/-- The same session with the file of the bitmap. -/
def saved : Session :=
  { showing with files := FileTree.empty.insert ["f"] (.file (Bitmap.sample.file .bgr24)) }

/-- Another file is written, and there is a second canvas. -/
def meanwhile : List Act := [.step (.write "g" []), .step (.canvas "b" none)]

/-- The second canvas shows what was saved, less the alpha bytes. -/
theorem tryLoad_saved_sample :
    showing.step (.save "a" "f" .bgr24) = .ok (saved, ⟨.saved true, []⟩) ∧
      ∃ s₂ log, (saved.run meanwhile).step (.tryLoad "b" "f" none .forced) =
          .ok (s₂, ⟨.outcome (.ok ()), log⟩) ∧
        s₂.canvases.get? "b" = some ⟨true, some (Bitmap.sample.withAlpha 0xff), none⟩ ∧
        s₂.canvases.get? "a" = some ⟨true, some Bitmap.sample, none⟩ := by
  have hsave : showing.step (.save "a" "f" .bgr24) = .ok (saved, ⟨.saved true, []⟩) := by cbv
  have hother : FileTree.location "g" ≠ FileTree.location "f" := by
    cbv
    decide
  have hacts : ∀ a ∈ meanwhile, ∀ other ∈ a.changedFile?,
      FileTree.location other ≠ FileTree.location "f" := by
    simpa [meanwhile, Act.changedFile?] using hother
  have hsource : (saved.run meanwhile).canvases.get? "a" =
      some ⟨true, some Bitmap.sample, none⟩ := by cbv
  have htarget : (saved.run meanwhile).canvases.get? "b" = some ⟨true, none, none⟩ := by cbv
  have hloader : (saved.run meanwhile).findLoader none = .ok {} := rfl
  obtain ⟨s₂, outcome, log, hstep, hadmit, hshown, -, hkept, -⟩ :=
    tryLoad_saved .forced rfl rfl (Bitmap.encode_of_fits (by decide)) hsave hacts htarget rfl
      hloader
  obtain rfl := hadmit.2 (by decide)
  exact ⟨hsave, s₂, log, hstep, hshown rfl, (hkept "a" (by decide)).trans hsource⟩

end Session

end Raster
