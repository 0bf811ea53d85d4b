import Raster.Session
import Raster.Proofs.Canvases
import Mathlib

/-!
# What can become of a session

A step of a session can do many things, but as far as canvases, trackers and counts are concerned it
has one of five effects (`Session.Effect`): none, a new tracker, a new canvas, a dropped canvas, or
a call on one canvas.  `Session.effect_step` says so of every step that is not refused.

Steps reach a canvas by one of three routes.  A run (`Session.run`) is more general: its acts are
steps, and calls on a canvas through wrappers nested to any depth.  Every act has one of the same
effects (`Session.effect_act`), so an invariant of sessions needs one proof for each effect.  Which
effect it is can be told without looking into the session, from what the act means to do
(`Session.Deed`) and from whether it goes well (`Session.answer`).
-/

namespace Raster

namespace Session

/-- The wrappers that a route puts around a canvas. -/
def Route.wrappers : Route → List Wrapper
  | direct => []
  | indirect => [.indirect]
  | forced => [.forced]

lemma value_loadBy (l : Loader) (files : FileTree) (file : String) (t : TrackedCanvas)
    (route : Route) :
    (loadBy l files file t route).value = t.call (.load route.wrappers l files file) := by
  cases route <;> rfl

lemma value_tryLoadBy (l : Loader) (files : FileTree) (file : String) (t : TrackedCanvas)
    (route : Route) :
    (tryLoadBy l files file t route).value.2 =
      (t.call (.tryLoad route.wrappers l files file)).2 := by
  cases route <;> rfl

lemma isOk_tryLoadBy (l : Loader) (files : FileTree) (file : String) (t : TrackedCanvas)
    (route : Route) :
    (tryLoadBy l files file t route).value.1.isOk =
      (t.call (.tryLoad route.wrappers l files file)).1 := by
  cases route <;> rfl

/-- A load without a loader is one with the usual limits. -/
lemma step_load (s : Session) (name file : String) (loader : Option String) (route : Route) :
    s.step (.load name file loader route) = s.findCanvas name >>= fun c =>
      s.findLoader loader >>= fun l =>
        .ok (s.put name (loadBy l s.files file (s.tracked c) route).value.2,
          (loadBy l s.files file (s.tracked c) route).map fun r => .loaded r.1) := by
  cases loader <;> cases route <;> rfl

/-! ## Deeds and effects -/

/-- What is meant to be done to the trackers and canvases of a session. -/
inductive Deed where
  /-- Nothing. -/
  | elsewhere
  /-- A new tracker gets a name. -/
  | tracker (name : String)
  /-- A new canvas gets a name.  It reports to the tracker that has a name, if one is given. -/
  | canvas (name : String) (tracker : Option String)
  /-- A canvas is dropped. -/
  | drop (canvas : String)
  /-- A canvas is released. -/
  | release (canvas : String)
  /-- A canvas is given a bitmap to show. -/
  | select (canvas : String)
deriving DecidableEq

/-- What a step means to do. -/
def Step.deed : Step → Deed
  | tracker name => .tracker name
  | canvas name t => .canvas name t
  | drop name => .drop name
  | release name => .release name
  | load name _ _ _ | tryLoad name _ _ _ | select name _ _ _ => .select name
  | _ => .elsewhere

/-- What a call on a canvas means to do. -/
def callDeed (name : String) : Canvas.Call → Deed
  | .release => .release name
  | _ => .select name

/-- Whether a reply tells of a success. -/
def Reply.isSuccess : Reply → Bool
  | loaded success => success
  | outcome result => result.isOk
  | _ => true

/-- What can become of the canvases, trackers and counters of a session by a deed, which goes well
or does not. -/
inductive Effect (s : Session) : Deed → Bool → Session → Prop where
  /-- Nothing: only files and loaders change. -/
  | elsewhere {d : Deed} {success : Bool} (files : FileTree) (loaders : Dictionary String Loader)
      (h : success = true → d = .elsewhere) :
    Effect s d success { s with files, loaders }
  /-- A name gets a new tracker. -/
  | tracker (name : String) :
    Effect s (.tracker name) true { s with
      trackers := s.trackers.insert name s.counters.create.1
      counters := s.counters.create.2 }
  /-- A name gets a new canvas. -/
  | canvas (name : String) (tracker : Option String) (t : Option Tracker)
      (h : s.findTracker tracker = .ok t) :
    Effect s (.canvas name tracker) true { s.dropCanvas name with
      canvases := (s.dropCanvas name).canvases.insert name (.new t) }
  /-- A canvas is dropped. -/
  | drop (name : String) : Effect s (.drop name) true (s.dropCanvas name)
  /-- A canvas is called. -/
  | call (name : String) (c : Canvas) (k : Canvas.Call) (h : s.canvases.get? name = some c) :
    Effect s (callDeed name k) ((s.tracked c).call k).1 (s.put name ((s.tracked c).call k).2)

variable {s s' : Session}

lemma get?_of_findCanvas {name : String} {c : Canvas} (h : s.findCanvas name = .ok c) :
    s.canvases.get? name = some c := by
  rw [findCanvas] at h
  split at h
  · next hc => rw [hc, Except.ok.inj h]
  · cases h

/-- Every step has one of the effects. -/
lemma effect_step {a : Step} {r : Logged Reply} (h : s.step a = .ok (s', r)) :
    Effect s a.deed r.value.isSuccess s' := by
  cases a with
  | write file data =>
    obtain ⟨files, -, h⟩ := bind_eq_ok_iff.1 h
    cases h
    exact .elsewhere files s.loaders fun _ => rfl
  | makeDirectory file =>
    obtain ⟨files, -, h⟩ := bind_eq_ok_iff.1 h
    cases h
    exact .elsewhere files s.loaders fun _ => rfl
  | remove file =>
    obtain ⟨files, -, h⟩ := bind_eq_ok_iff.1 h
    cases h
    exact .elsewhere files s.loaders fun _ => rfl
  | loader name limits =>
    cases h
    exact .elsewhere s.files _ fun _ => rfl
  | tracker name =>
    cases h
    exact .tracker name
  | canvas name tracker =>
    obtain ⟨t, ht, h⟩ := bind_eq_ok_iff.1 h
    cases h
    exact .canvas name tracker t ht
  | drop name =>
    obtain ⟨c, -, h⟩ := bind_eq_ok_iff.1 h
    cases h
    exact .drop name
  | release name =>
    obtain ⟨c, hc, h⟩ := bind_eq_ok_iff.1 h
    cases h
    exact .call name c .release (get?_of_findCanvas hc)
  | load name file loader route =>
    rw [step_load] at h
    obtain ⟨c, hc, h⟩ := bind_eq_ok_iff.1 h
    obtain ⟨l, -, h⟩ := bind_eq_ok_iff.1 h
    cases h
    rw [Logged.value_map, value_loadBy]
    exact .call name c (.load route.wrappers l s.files file) (get?_of_findCanvas hc)
  | tryLoad name file loader route =>
    obtain ⟨c, hc, h⟩ := bind_eq_ok_iff.1 h
    obtain ⟨l, -, h⟩ := bind_eq_ok_iff.1 h
    cases h
    rw [Logged.value_map, Reply.isSuccess, value_tryLoadBy, isOk_tryLoadBy]
    exact .call name c (.tryLoad route.wrappers l s.files file) (get?_of_findCanvas hc)
  | read file loader =>
    obtain ⟨l, -, h⟩ := bind_eq_ok_iff.1 h
    cases h
    exact .elsewhere s.files s.loaders fun _ => rfl
  | select name width height pixels =>
    obtain ⟨c, hc, h⟩ := bind_eq_ok_iff.1 h
    split at h
    · cases h
      exact .elsewhere s.files s.loaders nofun
    · next b hb =>
      cases h
      exact .call name c (.select [] b) (get?_of_findCanvas hc)
  | save name file format =>
    obtain ⟨c, hc, h⟩ := bind_eq_ok_iff.1 h
    split at h
    · cases h
      exact .elsewhere s.files s.loaders fun _ => rfl
    · obtain ⟨bytes, -, h⟩ := bind_eq_ok_iff.1 h
      obtain ⟨files, -, h⟩ := bind_eq_ok_iff.1 h
      cases h
      exact .elsewhere files s.loaders fun _ => rfl
  | pixel name x y =>
    obtain ⟨c, -, h⟩ := bind_eq_ok_iff.1 h
    cases h
    exact .elsewhere s.files s.loaders fun _ => rfl
  | bitmap name =>
    obtain ⟨c, -, h⟩ := bind_eq_ok_iff.1 h
    cases h
    exact .elsewhere s.files s.loaders fun _ => rfl
  | display name pretty =>
    obtain ⟨c, -, h⟩ := bind_eq_ok_iff.1 h
    cases h
    exact .elsewhere s.files s.loaders fun _ => rfl

/-! ## Runs -/

/-- What can happen in a session: a step, or a call on a canvas through wrappers. -/
inductive Act where
  | step (a : Step)
  | call (canvas : String) (k : Canvas.Call)

/-- What an act means to do. -/
def Act.deed : Act → Deed
  | step a => a.deed
  | call name k => callDeed name k

/-- What becomes of a session.  What is refused changes nothing. -/
def act (s : Session) : Act → Session
  | .step a =>
    match s.step a with
    | .ok (s', _) => s'
    | .error _ => s
  | .call name k =>
    match s.canvases.get? name with
    | some c => s.put name ((s.tracked c).call k).2
    | none => s

/-- Whether an act is carried out and goes well, as its reply says. -/
def answer (s : Session) : Act → Bool
  | .step a =>
    match s.step a with
    | .ok (_, r) => r.value.isSuccess
    | .error _ => false
  | .call name k =>
    match s.canvases.get? name with
    | some c => ((s.tracked c).call k).1
    | none => false

/-- What becomes of a session in a run, the earliest act first. -/
def run (s : Session) (acts : List Act) : Session := acts.foldl act s

lemma effect_act (s : Session) (a : Act) : Effect s a.deed (s.answer a) (s.act a) := by
  cases a with
  | step a =>
    rw [act, answer]
    cases h : s.step a with
    | ok result => exact effect_step h
    | error e => exact .elsewhere s.files s.loaders nofun
  | call name k =>
    rw [act, answer]
    cases h : s.canvases.get? name with
    | some c => exact .call name c k h
    | none => exact .elsewhere s.files s.loaders nofun

end Session

end Raster
