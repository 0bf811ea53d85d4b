import Raster.FileTree
import Raster.Limits
import Raster.Surface

/-!
# Loading files into surfaces

A loader reads a bitmap file, gives its pixels colors, and selects the result into a surface.
`Loader.tryLoad` asks the surface first whether it is valid, and selects a bitmap only once there
is one, so that over an atomic surface a load that fails changes nothing.  `Loader.load` answers
with a truth value and gives a notice of a failure.  `loadBitmap` does so for those who have no
loader of their own.
-/

namespace Raster

/-- What loads bitmap files. -/
structure Loader where
  limits : Limits := {}
deriving DecidableEq

namespace Loader

/-- The loader is displayed with its limits. -/
def layout (l : Loader) : Layout := .record "BitmapLoader" [("limits", l.limits.layout)] false

/-- The content of the file that a path names, if its size is within the limits. -/
def readFile (l : Loader) (t : FileTree) (path : String) : Except Error Bytes := do
  let node ← (t.stat path).mapError (.unreadable path)
  l.limits.checkFileSize (t.size node)
  (t.read path).mapError (.unreadable path)

/-- The bitmap in the file that a path names. -/
def read (l : Loader) (t : FileTree) (path : String) : Logged (Except Error Bitmap) :=
  match l.readFile t path with
  | .error e => ⟨.error e, []⟩
  | .ok data => Bitmap.decode l.limits data

variable {σ : Type} [Surface σ]

/-- Selects a bitmap that was read from a path into a surface. -/
def selectLoaded (path : String) (s : σ) (b : Bitmap) : Logged (Except Error Unit × σ) :=
  match Surface.select s b with
  | (.error e, s) => ⟨(.error e, s), []⟩
  | (.ok (), s) => ⟨(.ok (), s), [.loaded b.width b.height path]⟩

/-- Shows the bitmap in the file that a path names on a surface. -/
def tryLoad (l : Loader) (t : FileTree) (path : String) (s : σ) :
    Logged (Except Error Unit × σ) :=
  if Surface.isValid s then
    (l.read t path).andThen fun
      | .error e => ⟨(.error e, s), []⟩
      | .ok b => selectLoaded path s b
  else ⟨(.error .surfaceNotValid, s), []⟩

/-- Shows the bitmap in the file that a path names on a surface, and tells whether that went
well. -/
def load (l : Loader) (t : FileTree) (path : String) (s : σ) : Logged (Bool × σ) :=
  (l.tryLoad t path s).andThen fun
    | (.ok (), s) => ⟨(true, s), []⟩
    | (.error e, s) => ⟨(false, s), [.loadFailed path e]⟩

end Loader

/-- Shows the bitmap in the file that a path names on a surface, within the usual limits, and tells
whether that went well. -/
def loadBitmap {σ : Type} [Surface σ] (t : FileTree) (path : String) (s : σ) : Logged (Bool × σ) :=
  Loader.load {} t path s

end Raster
