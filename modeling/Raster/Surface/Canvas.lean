import Raster.Surface
import Raster.Surface.Counters

/-!
# Canvases

A canvas is a surface in memory.  It shows the bitmap that was selected last, until it is released;
a released canvas shows nothing and accepts nothing.  If the canvas has a tracker, the bitmap it
shows is counted there: a selection counts the new bitmap and then discounts the one it replaces.
-/

namespace Raster

/-- A surface in memory. -/
structure Canvas where
  /-- The canvas has not been released. -/
  valid : Bool
  /-- The bitmap that is shown. -/
  selected : Option Bitmap
  /-- Where the bitmap that is shown is counted. -/
  tracker : Option Tracker
deriving DecidableEq

namespace Canvas

/-- A canvas that shows nothing yet. -/
def new (tracker : Option Tracker) : Canvas := ⟨true, none, tracker⟩

/-- The color in column `x` and row `y` of the bitmap that is shown. -/
def pixel? (c : Canvas) (x y : Nat) : Option Color := do (← c.selected).pixel? x y

/-- The dimensions of the bitmap that is shown. -/
def dimensions (c : Canvas) : Option (Nat × Nat) := c.selected.map Bitmap.dimensions

/-- Discounts the bitmap that is shown. -/
def discount (c : Canvas) (counters : Counters) : Counters :=
  if c.selected.isSome then counters.release c.tracker else counters

/-- The canvas is displayed as a record, its tracker with the count it has. -/
def layout (c : Canvas) (counters : Counters) : Layout :=
  let guard := Layout.option (counters.layout "ResourceGuard") c.tracker
  let selection (b : Bitmap) : Layout :=
    .record "Selected" [("bitmap", b.layout), ("_guard", guard)] false
  .record "Canvas"
    [("valid", .bool c.valid),
     ("selected", .option selection c.selected),
     ("tracker", .option (counters.layout "ResourceTracker") c.tracker)]
    false

end Canvas

/-- A canvas together with the counters among which its tracker is. -/
structure TrackedCanvas where
  canvas : Canvas
  counters : Counters
deriving DecidableEq

namespace TrackedCanvas

/-- Shows a bitmap, unless the canvas has been released. -/
def select (s : TrackedCanvas) (b : Bitmap) : Except Error Unit × TrackedCanvas :=
  if s.canvas.valid then
    (.ok (), ⟨{ s.canvas with selected := some b },
      s.canvas.discount (s.counters.acquire s.canvas.tracker)⟩)
  else (.error .canvasReleased, s)

/-- Releases the canvas. -/
def release (s : TrackedCanvas) : TrackedCanvas :=
  ⟨{ s.canvas with valid := false, selected := none }, s.canvas.discount s.counters⟩

instance : Surface TrackedCanvas where
  isValid s := s.canvas.valid
  dimensions s := s.canvas.dimensions
  select := select

instance : AtomicSurface TrackedCanvas where
  eq_of_error {s s' b e} h := by
    change select s b = _ at h
    unfold select at h
    split at h
    · simp at h
    · exact (Prod.mk.inj h).2.symm

end TrackedCanvas

end Raster
