import Raster.Proofs.Agreement
import Raster.Proofs.Counts
import Mathlib

/-!
# Steps on different canvases are independent

A step that loads into, selects into, releases or drops a canvas is a step on that canvas.  Two
steps on different canvases can be taken in either order (`Session.steps_independent`), even if both
canvases report to one tracker, whose count then goes up and down on the way in another manner.

A step on a canvas looks at the files, the loaders and the canvas, but never at a count.  So it
changes alike all sessions in which these are the same (`Session.exists_change`), and the other step
leaves them as they are.  That settles replies and canvases.  For the counts, nothing has to be
followed through the two runs: both end with the right counts (`Session.Balanced`), and the canvases
say what these are.
-/

namespace Raster

open Wrapped

/-! ## Equal counters, equal sessions -/

/-- Counts of as many trackers, with the same count for each, are equal. -/
lemma Counters.ext_live {m n : Counters} (hlength : m.counts.length = n.counts.length)
    (hlive : ∀ t, m.live t = n.live t) : m = n := by
  obtain ⟨m⟩ := m
  obtain ⟨n⟩ := n
  congr 1
  refine List.ext_getElem hlength fun i hm hn => ?_
  have hi := hlive ⟨i⟩
  simpa [live, List.getElem?_eq_getElem hm, List.getElem?_eq_getElem hn] using hi

attribute [ext] Session

/-! ## What does not depend on the counts -/

section

variable (c : Canvas) (m n : Counters)

namespace TrackedCanvas

lemma outcome_select (b : Bitmap) : (select ⟨c, m⟩ b).1 = (select ⟨c, n⟩ b).1 := by
  cases h : c.valid with
  | true => rw [select_of_valid h, select_of_valid h]
  | false => rw [select_of_released h, select_of_released h]

end TrackedCanvas

/-- The same call does the same to the same canvas. -/
lemma Canvas.after_eq (k : Canvas.Call) : c.after ⟨m, k⟩ = c.after ⟨n, k⟩ := by
  by_cases hk : k = .release
  · rw [after_release hk, after_release hk]
  · cases h : c.valid with
    | true => rw [after_of_valid h hk, after_of_valid h hk]
    | false =>
      rw [after, after, TrackedCanvas.call_eq hk, TrackedCanvas.call_eq hk,
        TrackedCanvas.offer_of_released h, TrackedCanvas.offer_of_released h]

namespace Loader

variable (l : Loader) (files : FileTree) (file : String) (ws : List Wrapper)

lemma outcome_readAndSelect :
    (l.readAndSelect files file (TrackedCanvas.mk c m)).value.1 =
      (l.readAndSelect files file (TrackedCanvas.mk c n)).value.1 := by
  cases hread : (l.read files file).value with
  | error e =>
    rw [value_readAndSelect_of_error l files file hread,
      value_readAndSelect_of_error l files file hread]
  | ok b =>
    rw [value_readAndSelect_of_ok l files file hread, value_readAndSelect_of_ok l files file hread]
    exact TrackedCanvas.outcome_select c m n b

/-- The same load into the same canvas has the same outcome and gives the same notices. -/
lemma outcome_tryLoad :
    (l.tryLoad files file (wrap ws (TrackedCanvas.mk c m))).map Prod.fst =
      (l.tryLoad files file (wrap ws (TrackedCanvas.mk c n))).map Prod.fst := by
  have hvalid : Surface.isValid (wrap ws (TrackedCanvas.mk c m)) =
      Surface.isValid (wrap ws (TrackedCanvas.mk c n)) := by
    rw [Bool.eq_iff_iff, isValid_wrap, isValid_wrap]
    rfl
  cases h : Surface.isValid (wrap ws (TrackedCanvas.mk c n)) with
  | true =>
    rw [tryLoad_of_valid l files file h, tryLoad_of_valid l files file (hvalid.trans h),
      readAndSelect_wrap, readAndSelect_wrap]
    simp only [Logged.map, log_readAndSelect, outcome_readAndSelect c m n]
  | false =>
    rw [tryLoad_of_invalid l files file h, tryLoad_of_invalid l files file (hvalid.trans h)]
    rfl

lemma outcome_load :
    (l.load files file (wrap ws (TrackedCanvas.mk c m))).map Prod.fst =
      (l.load files file (wrap ws (TrackedCanvas.mk c n))).map Prod.fst := by
  obtain ⟨houtcome, hlog⟩ := Logged.mk.inj (outcome_tryLoad c m n l files file ws)
  simp only [Logged.map, value_load, log_load, houtcome, hlog]

end Loader

namespace Session

lemma reply_loadBy (l : Loader) (files : FileTree) (file : String) (route : Route) :
    ((loadBy l files file ⟨c, m⟩ route).map fun r => Reply.loaded r.1) =
      (loadBy l files file ⟨c, n⟩ route).map fun r => Reply.loaded r.1 := by
  have houtcome := Loader.outcome_load c m n l files file route.wrappers
  cases route <;> exact congrArg (Logged.map Reply.loaded) houtcome

lemma reply_tryLoadBy (l : Loader) (files : FileTree) (file : String) (route : Route) :
    ((tryLoadBy l files file ⟨c, m⟩ route).map fun r => Reply.outcome r.1) =
      (tryLoadBy l files file ⟨c, n⟩ route).map fun r => Reply.outcome r.1 := by
  have houtcome := Loader.outcome_tryLoad c m n l files file route.wrappers
  cases route <;> exact congrArg (Logged.map Reply.outcome) houtcome

end Session

end

/-! ## Steps on a canvas -/

/-- A canvas is not counted by a tracker to which it does not report. -/
lemma Canvas.holds_eq_false {c : Canvas} {t : Tracker} (h : c.tracker ≠ some t) :
    c.holds t = false := by
  rw [holds, decide_eq_false h, Bool.false_and]

namespace Session

/-- The canvas that a step loads into, selects into, releases or drops. -/
def Step.target? : Step → Option String
  | load name _ _ _ | tryLoad name _ _ _ | select name _ _ _ | release name | drop name => some name
  | _ => none

/-- The reply to a step with the notices it gives, or why it is refused. -/
def replyTo (s : Session) (a : Step) : Except Refusal (Logged Reply) := (s.step a).map Prod.snd

/-- What a step can do with a canvas. -/
inductive Change where
  /-- The step is refused, or it fails before it comes to the canvas. -/
  | nothing
  | drop
  | call (k : Canvas.Call)

/-- What becomes of the canvas of a session by a change. -/
def change (s : Session) (x : String) (c : Canvas) : Change → Session
  | .nothing => s
  | .drop => s.dropCanvas x
  | .call k => s.put x ((s.tracked c).call k).2

/-- What becomes of a canvas by a change; the counts make no difference (`Canvas.after_eq`). -/
def Change.result (c : Canvas) : Change → Option Canvas
  | nothing => some c
  | drop => none
  | call k => some (c.after ⟨.empty, k⟩).2

/-- Sessions that are the same to a step on a canvas. -/
structure SameFor (x : String) (s s' : Session) : Prop where
  files : s'.files = s.files
  loaders : s'.loaders = s.loaders
  canvas : s'.canvases.get? x = s.canvases.get? x

variable {s s' : Session} {x : String} {c : Canvas}

lemma SameFor.findLoader (h : SameFor x s s') (loader : Option String) :
    s'.findLoader loader = s.findLoader loader := by
  cases loader with
  | none => rfl
  | some name => rw [Session.findLoader, Session.findLoader, h.loaders]

lemma findCanvas_of_get? (h : s.canvases.get? x = some c) : s.findCanvas x = .ok c := by
  rw [findCanvas, h]

lemma act_of_ok {a : Step} {r : Logged Reply} (h : s.step a = .ok (s', r)) :
    s.act (.step a) = s' ∧ s.replyTo a = .ok r := by
  rw [act, replyTo, h]
  exact ⟨rfl, rfl⟩

lemma act_of_error {a : Step} {e : Refusal} (h : s.step a = .error e) :
    s.act (.step a) = s ∧ s.replyTo a = .error e := by
  rw [act, replyTo, h]
  exact ⟨rfl, rfl⟩

/-- A step on a canvas has the same reply and makes the same change in all sessions that are the
same to it. -/
lemma exists_change {a : Step} (ha : a.target? = some x) (hc : s.canvases.get? x = some c) :
    ∃ (ch : Change) (reply : Except Refusal (Logged Reply)), ∀ s', SameFor x s s' →
      s'.act (.step a) = s'.change x c ch ∧ s'.replyTo a = reply := by
  cases a with
  | drop name =>
    obtain rfl : name = x := Option.some.inj ha
    refine ⟨.drop, .ok ⟨.done, []⟩, fun s' h => act_of_ok ?_⟩
    rw [step, findCanvas_of_get? (h.canvas.trans hc)]
    rfl
  | release name =>
    obtain rfl : name = x := Option.some.inj ha
    refine ⟨.call .release, .ok ⟨.done, []⟩, fun s' h => act_of_ok ?_⟩
    rw [step, findCanvas_of_get? (h.canvas.trans hc)]
    rfl
  | load name file loader route =>
    obtain rfl : name = x := Option.some.inj ha
    cases hl : s.findLoader loader with
    | error e =>
      refine ⟨.nothing, .error e, fun s' h => act_of_error ?_⟩
      rw [step_load, findCanvas_of_get? (h.canvas.trans hc), h.findLoader, hl]
      rfl
    | ok l =>
      refine ⟨.call (.load route.wrappers l s.files file),
        .ok ((loadBy l s.files file (s.tracked c) route).map fun r => .loaded r.1),
        fun s' h => act_of_ok ?_⟩
      rw [step_load, findCanvas_of_get? (h.canvas.trans hc), h.findLoader, hl, tracked,
        reply_loadBy c s.counters s'.counters, ← h.files, change, tracked, ← value_loadBy]
      rfl
  | tryLoad name file loader route =>
    obtain rfl : name = x := Option.some.inj ha
    cases hl : s.findLoader loader with
    | error e =>
      refine ⟨.nothing, .error e, fun s' h => act_of_error ?_⟩
      rw [step, findCanvas_of_get? (h.canvas.trans hc), h.findLoader, hl]
      rfl
    | ok l =>
      refine ⟨.call (.tryLoad route.wrappers l s.files file),
        .ok ((tryLoadBy l s.files file (s.tracked c) route).map fun r => .outcome r.1),
        fun s' h => act_of_ok ?_⟩
      rw [step, findCanvas_of_get? (h.canvas.trans hc), h.findLoader, hl, tracked,
        reply_tryLoadBy c s.counters s'.counters, ← h.files, change, tracked, ← value_tryLoadBy]
      rfl
  | select name width height pixels =>
    obtain rfl : name = x := Option.some.inj ha
    cases hb : Bitmap.ofPixels width height pixels with
    | error e =>
      refine ⟨.nothing, .ok ⟨.outcome (.error e), []⟩, fun s' h => act_of_ok ?_⟩
      rw [step, findCanvas_of_get? (h.canvas.trans hc), hb]
      rfl
    | ok b =>
      refine ⟨.call (.select [] b), .ok ⟨.outcome ((s.tracked c).select b).1, []⟩,
        fun s' h => act_of_ok ?_⟩
      rw [step, findCanvas_of_get? (h.canvas.trans hc), hb, tracked,
        TrackedCanvas.outcome_select c s.counters s'.counters]
      rfl
  | _ => cases ha

/-! ## Two changes -/

lemma canvases_change (hc : s.canvases.get? x = some c) (ch : Change) :
    (s.change x c ch).canvases = s.canvases.assign x (ch.result c) := by
  cases ch with
  | nothing => exact (Dictionary.assign_get? hc).symm
  | drop =>
    rw [change, dropCanvas, hc]
    rfl
  | call k =>
    rw [Change.result, Canvas.after_eq c .empty s.counters]
    rfl

/-- A change is one of canvases and counts alone. -/
lemma change_eq (hc : s.canvases.get? x = some c) (ch : Change) :
    s.change x c ch =
      { s with
        canvases := s.canvases.assign x (ch.result c)
        counters := (s.change x c ch).counters } := by
  rw [← canvases_change hc]
  cases ch with
  | nothing => rfl
  | drop =>
    rw [change, dropCanvas, hc]
  | call k => rfl

lemma length_change (hc : s.canvases.get? x = some c) (ch : Change) :
    (s.change x c ch).counters.counts.length = s.counters.counts.length := by
  cases ch with
  | nothing => rfl
  | drop =>
    rw [change, dropCanvas, hc]
    exact Canvas.length_discount ..
  | call k => exact TrackedCanvas.length_call ..

/-- A change leaves alone the counts of the trackers to which the canvas does not report. -/
lemma live_change (hs : s.Balanced) (hc : s.canvases.get? x = some c) (ch : Change) {t : Tracker}
    (ht : c.tracker ≠ some t) : (s.change x c ch).counters.live t = s.counters.live t := by
  have hnot : c.holds t = false := Canvas.holds_eq_false ht
  cases ch with
  | nothing => rfl
  | drop =>
    rw [change, dropCanvas, hc]
    show (c.discount s.counters).live t = _
    rw [Canvas.live_discount, hnot]
    rfl
  | call k =>
    have hafter : ((s.tracked c).call k).2.canvas.holds t = false := by
      apply Canvas.holds_eq_false
      rw [TrackedCanvas.tracker_call]
      exact ht
    have hlive := TrackedCanvas.live_call (s := s.tracked c) (hs.canvas_known x c hc)
      (hs.holds_le_live hc t) k
    rw [hafter, show (s.tracked c).canvas.holds t = false from hnot] at hlive
    exact hlive

/-- What a step on a canvas does not touch. -/
structure Spares (x : String) (c : Canvas) (s s' : Session) : Prop where
  files : s'.files = s.files
  loaders : s'.loaders = s.loaders
  trackers : s'.trackers = s.trackers
  canvases : ∀ y, y ≠ x → s'.canvases.get? y = s.canvases.get? y
  live : ∀ t, c.tracker ≠ some t → s'.counters.live t = s.counters.live t

lemma spares_change (hs : s.Balanced) (hc : s.canvases.get? x = some c) (ch : Change) :
    Spares x c s (s.change x c ch) := by
  refine ⟨?_, ?_, ?_, ?_, fun t ht => live_change hs hc ch ht⟩
  · rw [change_eq hc]
  · rw [change_eq hc]
  · rw [change_eq hc]
  · intro y hy
    rw [canvases_change hc, Dictionary.get?_assign, if_neg hy]

lemma Spares.sameFor (h : Spares x c s s') {y : String} (hy : y ≠ x) : SameFor y s s' :=
  ⟨h.files, h.loaders, h.canvases y hy⟩

/-- The canvases say what the counts are. -/
lemma Balanced.counters_eq (hs : s.Balanced) (hs' : s'.Balanced)
    (hcanvases : s.canvases = s'.canvases)
    (hlength : s.counters.counts.length = s'.counters.counts.length) :
    s.counters = s'.counters := by
  refine Counters.ext_live hlength fun t => ?_
  rw [hs.live_eq, hs'.live_eq, holders, holders, hcanvases]

lemma Balanced.change (hs : s.Balanced) (hc : s.canvases.get? x = some c) (ch : Change) :
    (s.change x c ch).Balanced := by
  cases ch with
  | nothing => exact hs
  | drop => exact hs.effect (.drop x)
  | call k => exact hs.effect (.call x c k hc)

/-- Changes of different canvases can be made in either order. -/
lemma change_comm (hs : s.Balanced) {y : String} {d : Canvas} (hxy : x ≠ y)
    (hc : s.canvases.get? x = some c) (hd : s.canvases.get? y = some d) (cha chb : Change) :
    (s.change x c cha).change y d chb = (s.change y d chb).change x c cha := by
  have hsa := spares_change hs hc cha
  have hsb := spares_change hs hd chb
  have hc' : (s.change y d chb).canvases.get? x = some c := (hsb.canvases x hxy).trans hc
  have hd' : (s.change x c cha).canvases.get? y = some d := (hsa.canvases y hxy.symm).trans hd
  have hba := hs.change hc cha
  have hbb := hs.change hd chb
  have hsab := spares_change hba hd' chb
  have hsba := spares_change hbb hc' cha
  have hcanvases : ((s.change x c cha).change y d chb).canvases =
      ((s.change y d chb).change x c cha).canvases := by
    rw [canvases_change hd', canvases_change hc', canvases_change hc, canvases_change hd]
    exact Dictionary.assign_comm hxy (Dictionary.mem_keys_of_get? hc)
      (Dictionary.mem_keys_of_get? hd) _ _
  have hlength : ((s.change x c cha).change y d chb).counters.counts.length =
      ((s.change y d chb).change x c cha).counters.counts.length := by
    rw [length_change hd', length_change hc', length_change hc, length_change hd]
  refine Session.ext ?_ ?_ ?_ ?_ hcanvases
  -- the counts come last: both runs leave right ones, and these are settled by the canvases
  · rw [hsab.files, hsa.files, hsba.files, hsb.files]
  · rw [hsab.loaders, hsa.loaders, hsba.loaders, hsb.loaders]
  · rw [hsab.trackers, hsa.trackers, hsba.trackers, hsb.trackers]
  · exact (hba.change hd' chb).counters_eq (hbb.change hc' cha) hcanvases hlength

/-- **Steps on different canvases are independent.**  In whatever state a run has left a session, a
step that loads into, selects into, releases or drops a canvas leaves all files and all other
canvases as they are, and the counts of all trackers to which the canvas does not report.  Two such
steps on different canvases have the same replies in either order, with the same notices, and leave
the same session. -/
theorem steps_independent (acts : List Act) {a b : Step} {x y : String} {c d : Canvas}
    (ha : a.target? = some x) (hb : b.target? = some y) (hxy : x ≠ y)
    (hc : (empty.run acts).canvases.get? x = some c)
    (hd : (empty.run acts).canvases.get? y = some d) :
    let s := empty.run acts
    Spares x c s (s.act (.step a)) ∧
    Spares y d s (s.act (.step b)) ∧
    (s.act (.step b)).replyTo a = s.replyTo a ∧
    (s.act (.step a)).replyTo b = s.replyTo b ∧
    (s.act (.step a)).act (.step b) = (s.act (.step b)).act (.step a) := by
  intro s
  have hs : s.Balanced := balanced_run balanced_empty acts
  obtain ⟨cha, replya, hcha⟩ := exists_change ha hc
  obtain ⟨chb, replyb, hchb⟩ := exists_change hb hd
  obtain ⟨hacta, hreplya⟩ := hcha s ⟨rfl, rfl, rfl⟩
  obtain ⟨hactb, hreplyb⟩ := hchb s ⟨rfl, rfl, rfl⟩
  have hsa : Spares x c s (s.change x c cha) := spares_change hs hc cha
  have hsb : Spares y d s (s.change y d chb) := spares_change hs hd chb
  -- neither step makes a difference to the other
  obtain ⟨hactba, hreplyba⟩ := hcha _ (hsb.sameFor hxy)
  obtain ⟨hactab, hreplyab⟩ := hchb _ (hsa.sameFor hxy.symm)
  rw [hacta, hactb, hactab, hactba, hreplya, hreplyb]
  exact ⟨hsa, hsb, hreplyba, hreplyab, change_comm hs hxy hc hd cha chb⟩

/-- Two canvases with one tracker, both showing a bitmap of one pixel. -/
def sharing : List Act :=
  [.step (.tracker "t"), .step (.canvas "a" (some "t")), .step (.canvas "b" (some "t")),
    .step (.select "a" 1 1 [0, 0, 0, 0xff]), .step (.select "b" 1 1 [0, 0, 0, 0xff])]

/-- A canvas can be loaded into, in vain, before or after another one that is counted by the same
tracker is dropped. -/
theorem steps_independent_sample :
    let s := empty.run sharing
    let load : Step := .load "a" "missing" none .forced
    s.counters.live ⟨0⟩ = 2 ∧
    (s.act (.step (.drop "b"))).replyTo load = s.replyTo load ∧
    (s.act (.step load)).act (.step (.drop "b")) =
      (s.act (.step (.drop "b"))).act (.step load) := by
  have hlive : (empty.run sharing).counters.live ⟨0⟩ = 2 := by cbv
  have ha : ((empty.run sharing).canvases.get? "a").isSome = true := by cbv
  have hb : ((empty.run sharing).canvases.get? "b").isSome = true := by cbv
  obtain ⟨c, hc⟩ := Option.isSome_iff_exists.1 ha
  obtain ⟨d, hd⟩ := Option.isSome_iff_exists.1 hb
  have hxy : "a" ≠ "b" := by decide
  obtain ⟨-, -, hreply, -, hcomm⟩ :=
    steps_independent sharing (a := .load "a" "missing" none .forced) (b := .drop "b") rfl rfl hxy
      hc hd
  exact ⟨hlive, hreply, hcomm⟩

end Session

end Raster
