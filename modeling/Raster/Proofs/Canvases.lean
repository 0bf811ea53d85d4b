import Raster.Proofs.Loading
import Mathlib

/-!
# The life of a canvas

All that can be asked of a canvas, by itself or through wrappers, is a `Canvas.Call`: to select a
bitmap, to load a file, or to release.  What becomes of the canvas depends only on whether it is
valid and on the bitmap that the call has to offer (`TrackedCanvas.call_eq`).

A canvas shares its counters with others, and the files change too.  So the calls on one canvas come
as `Canvas.Event`s, each with the counters of its time, and a call to load has its own files.  The
main statement is `Canvas.run_shows_last_selection`: up to the first release a canvas shows what was
selected last, and from then on it shows nothing and accepts nothing.
-/

namespace Raster

open Wrapped

/-! ## Calls -/

/-- What can be asked of a canvas through wrappers. -/
inductive Canvas.Call where
  /-- Selects a bitmap. -/
  | select (through : List Wrapper) (b : Bitmap)
  /-- Loads a file. -/
  | load (through : List Wrapper) (l : Loader) (files : FileTree) (file : String)
  /-- Loads a file, and tells why that failed. -/
  | tryLoad (through : List Wrapper) (l : Loader) (files : FileTree) (file : String)
  /-- Releases the canvas. -/
  | release

/-- The bitmap that a call selects if it succeeds. -/
def Canvas.Call.bitmap? : Canvas.Call → Option Bitmap
  | select _ b => some b
  | load _ l files file | tryLoad _ l files file => (l.read files file).value.toOption
  | release => none

namespace TrackedCanvas

/-- Carries out a call, and tells whether it succeeds. -/
def call (s : TrackedCanvas) : Canvas.Call → Bool × TrackedCanvas
  | .select through b =>
    let r := Surface.select (wrap through s) b
    (r.1.isOk, core through r.2)
  | .load through l files file =>
    let r := (l.load files file (wrap through s)).value
    (r.1, core through r.2)
  | .tryLoad through l files file =>
    let r := (l.tryLoad files file (wrap through s)).value
    (r.1.isOk, core through r.2)
  | .release => (true, s.release)

/-- What becomes of a canvas that is offered a bitmap, or none. -/
def offer (s : TrackedCanvas) : Option Bitmap → Bool × TrackedCanvas
  | some b => (s.canvas.valid, (s.select b).2)
  | none => (false, s)

variable {s : TrackedCanvas}

lemma surface_select (s : TrackedCanvas) (b : Bitmap) : Surface.select s b = s.select b := rfl

lemma select_of_valid (h : s.canvas.valid = true) (b : Bitmap) :
    s.select b = (.ok (), ⟨{ s.canvas with selected := some b },
      s.canvas.discount (s.counters.acquire s.canvas.tracker)⟩) := if_pos h

lemma select_of_released (h : s.canvas.valid = false) (b : Bitmap) :
    s.select b = (.error .canvasReleased, s) := if_neg (by rw [h]; decide)

/-- Exactly the canvases that have not been released accept bitmaps. -/
lemma isOk_select (s : TrackedCanvas) (b : Bitmap) : (s.select b).1.isOk = s.canvas.valid := by
  cases h : s.canvas.valid with
  | true =>
    rw [select_of_valid h]
    rfl
  | false =>
    rw [select_of_released h]
    rfl

lemma offer_of_released (h : s.canvas.valid = false) (offered : Option Bitmap) :
    s.offer offered = (false, s) := by
  cases offered with
  | none => rfl
  | some b => rw [offer, h, select_of_released h]

/-- A load through wrappers offers the canvas the bitmap in the file. -/
lemma tryLoad_wrap (ws : List Wrapper) (l : Loader) (files : FileTree) (file : String) :
    let r := (l.tryLoad files file (wrap ws s)).value
    (r.1.isOk, core ws r.2) = s.offer (l.read files file).value.toOption := by
  rw [Loader.value_tryLoad_wrap]
  split
  · cases (l.read files file).value with
    | error e =>
      dsimp only
      rw [core_wrap]
      rfl
    | ok b =>
      dsimp only
      rw [core_wrap, surface_select, isOk_select]
      rfl
  · next hvalid =>
    rw [not_or, Bool.not_eq_true] at hvalid
    rw [offer_of_released hvalid.2]
    dsimp only
    rw [core_wrap]
    rfl

/-- A call other than a release offers the canvas its bitmap. -/
lemma call_eq {k : Canvas.Call} (hk : k ≠ .release) : s.call k = s.offer k.bitmap? := by
  cases k with
  | select ws b =>
    rw [call, select_wrap, core_wrap, surface_select, isOk_select]
    rfl
  | load ws l files file =>
    rw [call, Loader.value_load]
    exact tryLoad_wrap ws l files file
  | tryLoad ws l files file => exact tryLoad_wrap ws l files file
  | release => exact absurd rfl hk

/-- An offered bitmap takes the place of the one that is shown. -/
lemma canvas_offer (h : s.canvas.valid = true) (offered : Option Bitmap) :
    s.offer offered =
      (offered.isSome, ⟨{ s.canvas with selected := offered.or s.canvas.selected },
        (s.offer offered).2.counters⟩) := by
  cases offered with
  | none => rfl
  | some b =>
    rw [offer, h, select_of_valid h]
    rfl

end TrackedCanvas

/-! ## Runs of calls -/

namespace Canvas

/-- A call at a time when the trackers have some counts. -/
structure Event where
  counters : Counters
  call : Call

/-- What becomes of a canvas by a call, and whether the call succeeds. -/
def after (c : Canvas) (e : Event) : Bool × Canvas :=
  let r := TrackedCanvas.call ⟨c, e.counters⟩ e.call
  (r.1, r.2.canvas)

/-- What becomes of a canvas by calls, the earliest first. -/
def run (c : Canvas) : List Event → Canvas
  | [] => c
  | e :: es => (c.after e).2.run es

/-- The calls on a canvas, each with whether it succeeds. -/
def history (c : Canvas) : List Event → List (Call × Bool)
  | [] => []
  | e :: es => (e.call, (c.after e).1) :: (c.after e).2.history es

/-- The bitmap of the last call that succeeded in selecting one. -/
def lastShown (calls : List (Call × Bool)) : Option Bitmap :=
  (calls.filterMap fun k => if k.2 then k.1.bitmap? else none).getLast?

variable {c : Canvas} {e : Event} {es : List Event}

lemma after_of_valid (h : c.valid = true) (he : e.call ≠ .release) :
    c.after e = (e.call.bitmap?.isSome, { c with selected := e.call.bitmap?.or c.selected }) := by
  rw [after, TrackedCanvas.call_eq he, TrackedCanvas.canvas_offer h]

lemma after_release (he : e.call = .release) :
    c.after e = (true, { c with valid := false, selected := none }) := by
  rw [after, he]
  rfl

lemma lastShown_cons (k : Call) (success : Bool) (calls : List (Call × Bool)) :
    lastShown ((k, success) :: calls) =
      (lastShown calls).or (if success then k.bitmap? else none) := by
  rw [lastShown, List.filterMap_cons]
  dsimp only
  cases (if success then k.bitmap? else none) with
  | none => simp [lastShown]
  | some b => simp [lastShown, List.getLast?_cons]

/-- Without a release, a canvas stays valid and shows what was selected last. -/
lemma run_of_valid (h : c.valid = true) (hes : ∀ e ∈ es, e.call ≠ .release) :
    c.run es = { c with selected := (lastShown (c.history es)).or c.selected } := by
  induction es generalizing c with
  | nil => rfl
  | cons e es ih =>
    rw [List.forall_mem_cons] at hes
    have hafter := after_of_valid h hes.1
    rw [run, history, lastShown_cons, hafter]
    dsimp only
    rw [ih (by exact h) hes.2]
    cases e.call.bitmap? <;> simp

/-- A released canvas shows nothing. -/
def Released (c : Canvas) : Prop := c.valid = false ∧ c.selected = none

lemma Released.after (h : c.Released) (e : Event) : (c.after e).2 = c := by
  by_cases he : e.call = .release
  · rw [after_release he, ← h.1, ← h.2]
  · rw [Canvas.after, TrackedCanvas.call_eq he, TrackedCanvas.offer_of_released h.1]

/-- Nothing brings a released canvas back. -/
lemma Released.run (h : c.Released) (es : List Event) : c.run es = c := by
  induction es with
  | nil => rfl
  | cons e es ih => rw [Canvas.run, h.after, ih]

lemma released_run (hes : ∃ e ∈ es, e.call = .release) : (c.run es).Released := by
  induction es generalizing c with
  | nil => simp at hes
  | cons e es ih =>
    by_cases he : e.call = .release
    · have hreleased : (c.after e).2.Released := by
        rw [after_release he]
        exact ⟨rfl, rfl⟩
      rw [Canvas.run, hreleased.run]
      exact hreleased
    · obtain ⟨e', hmem, he'⟩ := hes
      rcases List.mem_cons.1 hmem with rfl | hmem
      · exact absurd he' he
      · exact ih ⟨e', hmem, he'⟩

/-- **A canvas shows the last selection until it is released.**  Without a release, a canvas that
was new shows the bitmap of the last call that succeeded in selecting one, is valid and accepts
every bitmap.  From the first release on it is not valid, shows nothing and refuses all that is
asked of it.  At all times its dimensions are those of the bitmap that it shows, which has pixels
and as many bytes as they need. -/
theorem run_shows_last_selection (tracker : Option Tracker) (es : List Event) :
    let c := (new tracker).run es
    ((∀ e ∈ es, e.call ≠ .release) →
      c.selected = lastShown ((new tracker).history es) ∧ c.valid = true ∧
        ∀ counters through b, (TrackedCanvas.call ⟨c, counters⟩ (.select through b)).1 = true) ∧
    ((∃ e ∈ es, e.call = .release) →
      c.valid = false ∧ c.selected = none ∧ c.dimensions = none ∧ (∀ x y, c.pixel? x y = none) ∧
        ∀ counters k, k ≠ .release → (TrackedCanvas.call ⟨c, counters⟩ k).1 = false) ∧
    c.dimensions = c.selected.map (fun b => (b.width, b.height)) ∧
    ∀ b, c.selected = some b →
      0 < b.width ∧ 0 < b.height ∧ b.pixels.length = b.width * b.height * 4 := by
  intro c
  refine ⟨?_, ?_, rfl, fun b _ => ⟨b.width_pos, b.height_pos, b.length_pixels⟩⟩
  · intro hes
    have hrun : c = _ := run_of_valid rfl hes
    have hvalid : c.valid = true := congrArg valid hrun
    refine ⟨(congrArg selected hrun).trans Option.or_none, hvalid, ?_⟩
    intro counters through b
    have hselect : Call.select through b ≠ .release := nofun
    rw [TrackedCanvas.call_eq hselect, TrackedCanvas.canvas_offer hvalid]
    rfl
  · intro hes
    obtain ⟨hvalid, hselected⟩ : c.Released := released_run hes
    refine ⟨hvalid, hselected, ?_, ?_, ?_⟩
    · rw [dimensions, hselected]
      rfl
    · intro x y
      rw [pixel?, hselected]
      rfl
    · intro counters k hk
      rw [TrackedCanvas.call_eq hk, TrackedCanvas.offer_of_released hvalid]

end Canvas

end Raster
