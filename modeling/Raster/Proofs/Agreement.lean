import Raster.Proofs.Sessions
import Mathlib

/-!
# The ways to load agree

A file can be loaded with a reason for a failure (`Loader.tryLoad`), with a truth value
(`Loader.load`), without a loader (`loadBitmap`), or by hand: read the bitmap and select it
(`Loader.readAndSelect`).  A session can also load without naming a loader.

Over a valid surface a load does what is done by hand, and all that it adds to the log is a notice
of its success (`Loader.tryLoad_of_valid`).  A load with a truth value adds to that the notice of a
failure (`Loader.log_load`).  The surface may be behind wrappers of any depth, which make no
difference to what is done by hand (`Loader.readAndSelect_wrap`).  The main statement is
`Loader.loads_agree`.
-/

namespace Raster

open Wrapped

variable {σ : Type} [Surface σ]

namespace Loader

/-- Reads the bitmap in the file that a path names and selects it, whatever the surface says of
itself. -/
def readAndSelect (l : Loader) (t : FileTree) (path : String) (s : σ) :
    Logged (Except Error Unit × σ) :=
  (l.read t path).map fun
    | .error e => (.error e, s)
    | .ok b => Surface.select s b

/-- The notice of a success, by what was read and whether it was selected. -/
def successNotice (path : String) : Except Error Bitmap → Except Error Unit → List Notice
  | .ok b, .ok () => [.loaded b.width b.height path]
  | _, _ => []

@[simp] lemma successNotice_error (path : String) (r : Except Error Bitmap) (e : Error) :
    successNotice path r (.error e) = [] := by cases r <;> rfl

/-- The notice of a failure. -/
def failureNotice (path : String) : Except Error Unit → List Notice
  | .ok () => []
  | .error e => [.loadFailed path e]

variable (l : Loader) (t : FileTree) (path : String)

lemma log_readAndSelect (s : σ) :
    (l.readAndSelect t path s).log = (l.read t path).log := rfl

lemma value_readAndSelect_of_error {e : Error} (h : (l.read t path).value = .error e) (s : σ) :
    (l.readAndSelect t path s).value = (.error e, s) := by
  rw [readAndSelect, Logged.value_map, h]

lemma value_readAndSelect_of_ok {b : Bitmap} (h : (l.read t path).value = .ok b) (s : σ) :
    (l.readAndSelect t path s).value = Surface.select s b := by
  rw [readAndSelect, Logged.value_map, h]

/-- The line on a success, with the times. -/
lemma timedLine_loaded (width height : Nat) (path : String) (times : Notice.Timings) :
    (Notice.loaded width height path).timedLine times =
      s!"TRACE: loaded {width}x{height} bitmap from '{path}'"
        ++ s!": t_read={times.read}, t_decode={times.decode}, t_select={times.select}" := by
  have htext (text : String) : toString text = text := rfl
  have hstart : "TRACE: loaded " = "TRACE" ++ (": " ++ "loaded ") := by decide
  unfold Notice.timedLine Notice.timedText Notice.text Notice.level Notice.Level.name
  simp only [htext, hstart, String.append_assoc]

/-- A success by hand is the selection of a bitmap that was read. -/
lemma exists_read_of_ok {s : σ} (h : (l.readAndSelect t path s).value.1 = .ok ()) :
    ∃ b, (l.read t path).value = .ok b := by
  cases hread : (l.read t path).value with
  | error e =>
    rw [value_readAndSelect_of_error l t path hread] at h
    cases h
  | ok b => exact ⟨b, rfl⟩

/-- What is selected through wrappers is selected into the surface behind them. -/
lemma readAndSelect_wrap (ws : List Wrapper) (s : σ) :
    l.readAndSelect t path (wrap ws s) =
      (l.readAndSelect t path s).map fun r => (r.1, wrap ws r.2) := by
  rw [readAndSelect, readAndSelect]
  cases hread : (l.read t path).value with
  | error e => simp [Logged.map, hread]
  | ok b => simp [Logged.map, hread, select_wrap]

/-- The selection of what was read gives the notice of its success, if any. -/
lemma selectLoaded_eq (s : σ) (b : Bitmap) :
    selectLoaded path s b =
      ⟨Surface.select s b, successNotice path (.ok b) (Surface.select s b).1⟩ := by
  rw [selectLoaded]
  rcases Surface.select s b with ⟨_ | _, s'⟩ <;> rfl

/-- A load into a valid surface is a selection by hand with a notice of its success. -/
lemma tryLoad_of_valid {s : σ} (h : Surface.isValid s = true) :
    l.tryLoad t path s =
      ⟨(l.readAndSelect t path s).value,
        (l.readAndSelect t path s).log ++
          successNotice path (l.read t path).value (l.readAndSelect t path s).value.1⟩ := by
  rw [tryLoad, if_pos h, Logged.andThen, log_readAndSelect]
  cases hread : (l.read t path).value with
  | error e => rw [value_readAndSelect_of_error l t path hread, successNotice_error]
  | ok b =>
    rw [value_readAndSelect_of_ok l t path hread]
    dsimp only
    rw [selectLoaded_eq]

/-- A load into an invalid surface is given up before it begins. -/
lemma tryLoad_of_invalid {s : σ} (h : Surface.isValid s = false) :
    l.tryLoad t path s = ⟨(.error .surfaceNotValid, s), []⟩ := if_neg (by rw [h]; decide)

/-- A load that gives a truth value adds the notice of a failure to what is noticed anyway. -/
lemma log_load (s : σ) :
    (l.load t path s).log =
      (l.tryLoad t path s).log ++ failureNotice path (l.tryLoad t path s).value.1 := by
  rw [load, Logged.log_andThen]
  rcases (l.tryLoad t path s).value with ⟨_ | _, s'⟩ <;> rfl

/-- **The ways to load agree.**  A load into a valid surface, behind any wrappers, has the outcome
and leaves the surface that reading the bitmap and selecting it by hand would, and it gives the same
notices, followed by one trace of its success.  A load into a surface that does not claim to be
valid fails without a notice, whatever the files are.  A load that gives a truth value says whether
the one that gives a reason succeeds, leaves the same surface, and gives the same notices, followed
by one warning if it fails, with the path and the error.  A load without a loader is one by a loader
with the usual limits, on any surface and behind any wrappers; and a session that names no loader
loads in that way. -/
theorem loads_agree (ws : List Wrapper) (s : σ) :
    let byHand := l.readAndSelect t path s
    let tried := l.tryLoad t path (wrap ws s)
    let loaded := l.load t path (wrap ws s)
    (Surface.isValid (wrap ws s) = true →
      tried.value = (byHand.value.1, wrap ws byHand.value.2) ∧
      (∀ e, byHand.value.1 = .error e → tried.log = (l.read t path).log) ∧
      (byHand.value.1 = .ok () → ∃ b, (l.read t path).value = .ok b ∧
        tried.log = (l.read t path).log ++ [.loaded b.width b.height path] ∧
        ∀ times, (Notice.loaded b.width b.height path).timedLine times =
          s!"TRACE: loaded {b.width}x{b.height} bitmap from '{path}'"
            ++ s!": t_read={times.read}, t_decode={times.decode}, t_select={times.select}")) ∧
    (Surface.isValid (wrap ws s) = false →
      tried = ⟨(.error .surfaceNotValid, wrap ws s), []⟩ ∧
      Error.surfaceNotValid.kind = .invalidSurface) ∧
    (loaded.value.1 = true ↔ tried.value.1 = .ok ()) ∧
    loaded.value.2 = tried.value.2 ∧
    (tried.value.1 = .ok () → loaded.log = tried.log) ∧
    (∀ e, tried.value.1 = .error e → loaded.log = tried.log ++ [.loadFailed path e] ∧
      ∀ times, (Notice.loadFailed path e).timedLine times =
        s!"WARN: failed to load bitmap '{path}': {e.message}") ∧
    loadBitmap t path (wrap ws s) = ({} : Loader).load t path (wrap ws s) ∧
    (∀ (u : Session) (canvas : String) (c : Canvas), u.canvases.get? canvas = some c →
      ∀ file, u.step (.load canvas file none .direct) =
        .ok (u.put canvas (loadBitmap u.files file (u.tracked c)).value.2,
          (loadBitmap u.files file (u.tracked c)).map fun r => .loaded r.1)) ∧
    ∀ (u : Session) (name : String), u.loaders.get? name = some {} → ∀ canvas file route,
      u.step (.load canvas file none route) = u.step (.load canvas file (some name) route) := by
  intro byHand tried loaded
  have hvalue : loaded.value = (tried.value.1.isOk, tried.value.2) := value_load l t path _
  have hlog : loaded.log = tried.log ++ failureNotice path tried.value.1 := log_load l t path _
  refine ⟨?_, ?_, ?_, congrArg Prod.snd hvalue, ?_, ?_, rfl, ?_, ?_⟩
  · intro hvalid
    have htried : tried = _ := tryLoad_of_valid l t path hvalid
    rw [readAndSelect_wrap] at htried
    refine ⟨congrArg Logged.value htried, ?_, ?_⟩
    · intro e he
      rw [htried, Logged.value_map, he, successNotice_error]
      exact List.append_nil _
    · intro hok
      obtain ⟨b, hread⟩ := exists_read_of_ok l t path hok
      refine ⟨b, hread, ?_, fun times => timedLine_loaded ..⟩
      rw [htried, Logged.value_map, hok, hread]
      rfl
  · intro hinvalid
    exact ⟨tryLoad_of_invalid l t path hinvalid, rfl⟩
  · rw [hvalue]
    cases tried.value.1 with
    | error e => exact iff_of_false Bool.false_ne_true nofun
    | ok u => exact iff_of_true rfl rfl
  · intro hok
    rw [hlog, hok]
    exact List.append_nil _
  · intro e he
    refine ⟨?_, fun _ => rfl⟩
    rw [hlog, he]
    rfl
  · intro u canvas c hc file
    rw [Session.step, Session.findCanvas, hc]
    rfl
  · intro u name hname canvas file route
    have hloader : u.findLoader (some name) = u.findLoader none := by
      simp only [Session.findLoader, hname]
    rw [Session.step_load, Session.step_load, hloader]

/-- A released canvas that a wrapper claims to be valid is found out in the selection, after the
notices of the reading, and both loads say so. -/
theorem loads_agree_sample :
    Surface.isValid (wrap [.indirect, .forced] releasedCanvas) = true ∧
    (({} : Loader).tryLoad sampleFiles "a" (wrap [.indirect, .forced] releasedCanvas)).value =
      (.error .canvasReleased, wrap [.indirect, .forced] releasedCanvas) ∧
    (({} : Loader).load sampleFiles "a" (wrap [.indirect, .forced] releasedCanvas)).log =
      (({} : Loader).read sampleFiles "a").log ++ [.loadFailed "a" .canvasReleased] := by
  have hvalid : Surface.isValid (wrap [.indirect, .forced] releasedCanvas) = true :=
    (isValid_wrap _ _).2 (Or.inl (by decide))
  have hfails : (({} : Loader).readAndSelect sampleFiles "a" releasedCanvas).value =
      (.error .canvasReleased, releasedCanvas) := by cbv
  obtain ⟨hof_valid, -, -, -, -, hfailure, -⟩ :=
    loads_agree {} sampleFiles "a" [.indirect, .forced] releasedCanvas
  obtain ⟨hvalue, hlog, -⟩ := hof_valid hvalid
  rw [hfails] at hvalue hlog
  obtain ⟨hloaded, -⟩ := hfailure .canvasReleased (congrArg Prod.fst hvalue)
  rw [hlog .canvasReleased rfl] at hloaded
  exact ⟨hvalid, hvalue, hloaded⟩

end Loader

end Raster
