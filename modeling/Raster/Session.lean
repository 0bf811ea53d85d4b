import Raster.Bmp.PixelFormat
import Raster.Loader
import Raster.Surface.Canvas

/-!
# Sessions

A session is a working directory with named loaders, trackers and canvases, and `Session.step`
carries out one step of it.  Canvases and trackers come and go by name: giving a name to a new
canvas drops the one that had it, while a tracker that loses its name lives on in the canvases
that report to it.

A step can name what is not there; then it is refused (`Session.Refusal`) and the session stays as
it is.  All other outcomes, errors included, are the reply to the step.
-/

namespace Raster

/-- How a loader reaches a canvas. -/
inductive Session.Route where
  /-- The canvas itself. -/
  | direct
  /-- A value that passes everything on to the canvas. -/
  | indirect
  /-- A value that claims to be valid and passes the rest on to the canvas. -/
  | forced
deriving DecidableEq

/-- One step of a session. -/
inductive Session.Step where
  /-- Writes a file. -/
  | write (file : String) (data : Bytes)
  /-- Makes a directory. -/
  | makeDirectory (file : String)
  /-- Removes a file. -/
  | remove (file : String)
  /-- Creates a loader. -/
  | loader (name : String) (limits : Limits)
  /-- Creates a tracker. -/
  | tracker (name : String)
  /-- Creates a canvas, with or without a tracker. -/
  | canvas (name : String) (tracker : Option String)
  /-- Drops a canvas. -/
  | drop (canvas : String)
  /-- Releases a canvas. -/
  | release (canvas : String)
  /-- Loads a file into a canvas; without a loader the limits are the usual ones.  Directly and
  without a loader this is `loadBitmap`. -/
  | load (canvas file : String) (loader : Option String) (route : Session.Route)
  /-- Loads a file into a canvas, and tells why that failed. -/
  | tryLoad (canvas file : String) (loader : Option String) (route : Session.Route)
  /-- Reads the bitmap in a file. -/
  | read (file : String) (loader : Option String)
  /-- Makes a bitmap and selects it into a canvas. -/
  | select (canvas : String) (width height : Nat) (pixels : Bytes)
  /-- Writes the bitmap that a canvas shows to a file. -/
  | save (canvas file : String) (format : PixelFormat)
  /-- Asks a canvas for a color. -/
  | pixel (canvas : String) (x y : Nat)
  /-- Asks a canvas for its bitmap. -/
  | bitmap (canvas : String)
  /-- Asks for the display of a canvas. -/
  | display (canvas : String) (pretty : Bool)

/-- The reply to a step. -/
inductive Session.Reply where
  /-- The step is done. -/
  | done
  /-- A loader was created. -/
  | loader (loader : Loader)
  /-- Whether a file was loaded. -/
  | loaded (success : Bool)
  /-- Whether something was selected, or why not. -/
  | outcome (result : Except Error Unit)
  /-- The bitmap of a file, or why there is none. -/
  | read (result : Except Error Bitmap)
  /-- Whether there was a bitmap to save. -/
  | saved (success : Bool)
  /-- The color of a pixel, if there is that pixel. -/
  | color (color : Option Color)
  /-- The bitmap that is shown, if there is one. -/
  | bitmap (bitmap : Option Bitmap)
  /-- The display of a value. -/
  | text (text : String)

/-- A working directory with named loaders, trackers and canvases. -/
structure Session where
  files : FileTree
  loaders : Dictionary String Loader
  trackers : Dictionary String Tracker
  /-- The counts of all trackers, those without a name included. -/
  counters : Counters
  canvases : Dictionary String Canvas

namespace Session

/-- Why a step cannot be carried out. -/
inductive Refusal where
  /-- There is no canvas of this name. -/
  | noCanvas (name : String)
  /-- There is no tracker of this name. -/
  | noTracker (name : String)
  /-- There is no loader of this name. -/
  | noLoader (name : String)
  /-- The file cannot be written, made or removed. -/
  | file (path : String) (fault : FileTree.Fault)
  /-- The bitmap cannot be written. -/
  | encode (error : Error)

/-- The message of a refusal. -/
def Refusal.message : Refusal → String
  | noCanvas name => s!"no canvas '{name}'"
  | noTracker name => s!"no tracker '{name}'"
  | noLoader name => s!"no loader '{name}'"
  | file path fault => s!"cannot write '{path}': {fault.message}"
  | encode error => error.message

/-- An empty working directory, and nothing else. -/
def empty : Session := ⟨.empty, .empty, .empty, .empty, .empty⟩

/-! ## Looking up and putting back -/

/-- The canvas of a name. -/
def findCanvas (s : Session) (name : String) : Except Refusal Canvas :=
  match s.canvases.get? name with
  | some c => .ok c
  | none => .error (.noCanvas name)

/-- The loader of a name; without a name, a loader with the usual limits. -/
def findLoader (s : Session) : Option String → Except Refusal Loader
  | none => .ok {}
  | some name =>
    match s.loaders.get? name with
    | some l => .ok l
    | none => .error (.noLoader name)

/-- The tracker of a name, if there is a name. -/
def findTracker (s : Session) : Option String → Except Refusal (Option Tracker)
  | none => .ok none
  | some name =>
    match s.trackers.get? name with
    | some t => .ok (some t)
    | none => .error (.noTracker name)

/-- A canvas with the counters of the session. -/
def tracked (s : Session) (c : Canvas) : TrackedCanvas := ⟨c, s.counters⟩

/-- Puts a canvas and the counters back. -/
def put (s : Session) (name : String) (t : TrackedCanvas) : Session :=
  { s with canvases := s.canvases.insert name t.canvas, counters := t.counters }

/-- The session in which a name has no canvas. -/
def dropCanvas (s : Session) (name : String) : Session :=
  match s.canvases.get? name with
  | none => s
  | some c =>
    { s with canvases := s.canvases.erase name, counters := c.discount s.counters }

/-- Loads a file into a canvas by a route. -/
def loadBy (l : Loader) (files : FileTree) (file : String) (t : TrackedCanvas) :
    Route → Logged (Bool × TrackedCanvas)
  | .direct => l.load files file t
  | .indirect => (l.load files file (Indirect.mk t)).map fun r => (r.1, r.2.target)
  | .forced => (l.load files file (Forced.mk t)).map fun r => (r.1, r.2.target)

/-- Loads a file into a canvas by a route, and tells why that failed. -/
def tryLoadBy (l : Loader) (files : FileTree) (file : String) (t : TrackedCanvas) :
    Route → Logged (Except Error Unit × TrackedCanvas)
  | .direct => l.tryLoad files file t
  | .indirect => (l.tryLoad files file (Indirect.mk t)).map fun r => (r.1, r.2.target)
  | .forced => (l.tryLoad files file (Forced.mk t)).map fun r => (r.1, r.2.target)

/-! ## Steps -/

/-- The result of a step that gives no notices. -/
def silent (s : Session) (r : Reply) : Except Refusal (Session × Logged Reply) := .ok (s, ⟨r, []⟩)

/-- Carries out one step. -/
def step (s : Session) : Step → Except Refusal (Session × Logged Reply)
  | .write file data => do
    let files ← (s.files.plant file data).mapError (.file file)
    silent { s with files } .done
  | .makeDirectory file => do
    let files ← (s.files.makeDirectory file).mapError (.file file)
    silent { s with files } .done
  | .remove file => do
    let files ← (s.files.remove file).mapError (.file file)
    silent { s with files } .done
  | .loader name limits =>
    silent { s with loaders := s.loaders.insert name ⟨limits⟩ } (.loader ⟨limits⟩)
  | .tracker name =>
    let (t, counters) := s.counters.create
    silent { s with trackers := s.trackers.insert name t, counters } .done
  | .canvas name tracker => do
    let t ← s.findTracker tracker
    let s := s.dropCanvas name
    silent { s with canvases := s.canvases.insert name (.new t) } .done
  | .drop name => do
    let _ ← s.findCanvas name
    silent (s.dropCanvas name) .done
  | .release name => do
    let c ← s.findCanvas name
    silent (s.put name (s.tracked c).release) .done
  | .load name file none .direct => do
    let c ← s.findCanvas name
    let result := loadBitmap s.files file (s.tracked c)
    return (s.put name result.value.2, result.map fun r => .loaded r.1)
  | .load name file loader route => do
    let c ← s.findCanvas name
    let l ← s.findLoader loader
    let result := loadBy l s.files file (s.tracked c) route
    return (s.put name result.value.2, result.map fun r => .loaded r.1)
  | .tryLoad name file loader route => do
    let c ← s.findCanvas name
    let l ← s.findLoader loader
    let result := tryLoadBy l s.files file (s.tracked c) route
    return (s.put name result.value.2, result.map fun r => .outcome r.1)
  | .read file loader => do
    let l ← s.findLoader loader
    return (s, (l.read s.files file).map .read)
  | .select name width height pixels => do
    let c ← s.findCanvas name
    match Bitmap.ofPixels width height pixels with
    | .error e => silent s (.outcome (.error e))
    | .ok b =>
      let (result, t) := (s.tracked c).select b
      silent (s.put name t) (.outcome result)
  | .save name file format => do
    let c ← s.findCanvas name
    match c.selected with
    | none => silent s (.saved false)
    | some b =>
      let bytes ← (b.encode format).mapError .encode
      let files ← (s.files.write file bytes).mapError (.file file)
      silent { s with files } (.saved true)
  | .pixel name x y => do
    let c ← s.findCanvas name
    silent s (.color (c.pixel? x y))
  | .bitmap name => do
    let c ← s.findCanvas name
    silent s (.bitmap c.selected)
  | .display name pretty => do
    let c ← s.findCanvas name
    silent s (.text ((c.layout s.counters).render pretty))

end Session

end Raster
