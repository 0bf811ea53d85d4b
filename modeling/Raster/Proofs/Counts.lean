import Raster.Proofs.Dictionaries
import Raster.Proofs.Sessions
import Mathlib

/-!
# Counts of selected bitmaps

A tracker counts the bitmaps that are shown by the canvases which report to it.  The count is never
computed from the canvases: it goes up when a bitmap is selected, and down when a bitmap is taken
off a canvas, be it by a release, by a drop, or because another one takes its place.  Here the count
is found to be right after whatever can happen in a session (`Session.balanced_run`).

A call changes the counts by as much as it changes what the canvas shows
(`TrackedCanvas.live_call`).  So each effect on a session keeps the invariant `Session.Balanced`:
the counts are right, the trackers in use have counters, and released canvases show nothing.
-/

namespace Raster

/-! ## What a call counts -/

/-- A canvas shows a bitmap that is counted in a tracker. -/
def Canvas.holds (c : Canvas) (t : Tracker) : Bool := c.tracker = some t && c.selected.isSome

namespace Counters

@[simp] lemma length_acquire (k : Counters) (t : Option Tracker) :
    (k.acquire t).counts.length = k.counts.length := by
  cases t with
  | none => rfl
  | some t => exact List.length_modify ..

@[simp] lemma length_release (k : Counters) (t : Option Tracker) :
    (k.release t).counts.length = k.counts.length := by
  cases t with
  | none => rfl
  | some t => exact List.length_modify ..

/-- A new tracker has the count 0, and the others keep theirs. -/
lemma live_create (k : Counters) (t : Tracker) : k.create.2.live t = k.live t := by
  rw [live, live, create]
  dsimp only
  rw [List.getElem?_append]
  split
  · rfl
  · next h =>
    rw [List.getElem?_eq_none (Nat.le_of_not_lt h)]
    rcases Nat.eq_zero_or_pos (t.index - k.counts.length) with h0 | h0
    · rw [h0]
      rfl
    · rw [List.getElem?_eq_none (by rw [List.length_singleton]; exact h0)]

/-- There is a counter for a tracker, if there is a tracker. -/
def Knows (k : Counters) (t : Option Tracker) : Prop := ∀ u ∈ t, u.index < k.counts.length

lemma Knows.mono {k k' : Counters} (hle : k.counts.length ≤ k'.counts.length)
    {t : Option Tracker} (h : k.Knows t) : k'.Knows t := fun u hu => (h u hu).trans_le hle

lemma live_acquire_option {k : Counters} {t : Option Tracker} (h : k.Knows t) (u : Tracker) :
    (k.acquire t).live u = k.live u + (decide (t = some u)).toNat := by
  cases t with
  | none => rfl
  | some t =>
    rw [live_acquire k t u (h t rfl)]
    by_cases hu : u = t
    · simp [hu]
    · simp [hu, Ne.symm hu]

end Counters

namespace Canvas

@[simp] lemma length_discount (c : Canvas) (k : Counters) :
    (c.discount k).counts.length = k.counts.length := by
  rw [discount]
  split
  · exact Counters.length_release k c.tracker
  · rfl

lemma live_discount (c : Canvas) (k : Counters) (u : Tracker) :
    (c.discount k).live u = k.live u - (c.holds u).toNat := by
  rw [discount, holds]
  cases c.selected with
  | none => simp
  | some b =>
    cases c.tracker with
    | none => simp [Counters.release]
    | some t =>
      rw [if_pos Option.isSome_some, Counters.live_release]
      by_cases hu : u = t
      · simp [hu]
      · simp [hu, Ne.symm hu]

lemma live_discount_add (c : Canvas) {k : Counters} {u : Tracker}
    (h : (c.holds u).toNat ≤ k.live u) :
    (c.discount k).live u + (c.holds u).toNat = k.live u := by
  rw [live_discount, Nat.sub_add_cancel h]

end Canvas

namespace TrackedCanvas

variable {s : TrackedCanvas}

/-- A call leaves the canvas with the tracker that it was made with. -/
lemma tracker_call (s : TrackedCanvas) (k : Canvas.Call) :
    (s.call k).2.canvas.tracker = s.canvas.tracker := by
  by_cases hk : k = .release
  · rw [hk]
    rfl
  · rw [call_eq hk]
    cases h : s.canvas.valid with
    | true => rw [canvas_offer h]
    | false => rw [offer_of_released h]

lemma length_call (s : TrackedCanvas) (k : Canvas.Call) :
    (s.call k).2.counters.counts.length = s.counters.counts.length := by
  by_cases hk : k = .release
  · rw [hk]
    exact Canvas.length_discount ..
  · rw [call_eq hk]
    cases k.bitmap? with
    | none => rfl
    | some b =>
      cases h : s.canvas.valid with
      | true =>
        rw [offer, select_of_valid h]
        exact (Canvas.length_discount ..).trans (Counters.length_acquire ..)
      | false => rw [offer_of_released h]

/-- A canvas that a call leaves released shows nothing. -/
lemma selected_call (hs : s.canvas.valid = false → s.canvas.selected = none) (k : Canvas.Call) :
    (s.call k).2.canvas.valid = false → (s.call k).2.canvas.selected = none := by
  by_cases hk : k = .release
  · rw [hk]
    exact fun _ => rfl
  · rw [call_eq hk]
    cases h : s.canvas.valid with
    | true =>
      rw [canvas_offer h]
      exact fun hvalid => absurd (h.symm.trans hvalid) (by decide)
    | false =>
      rw [offer_of_released h]
      exact fun _ => hs h

/-- A call changes the counts by as much as it changes what the canvas shows. -/
lemma live_call (hknown : s.counters.Knows s.canvas.tracker)
    {u : Tracker} (hcounted : (s.canvas.holds u).toNat ≤ s.counters.live u) (k : Canvas.Call) :
    (s.call k).2.counters.live u + (s.canvas.holds u).toNat =
      s.counters.live u + ((s.call k).2.canvas.holds u).toNat := by
  by_cases hk : k = .release
  · have hnothing : (s.call k).2.canvas.holds u = false := by
      rw [hk]
      exact Bool.and_false _
    rw [hnothing, hk]
    exact s.canvas.live_discount_add hcounted
  · rw [call_eq hk]
    cases k.bitmap? with
    | none => rfl
    | some b =>
      cases h : s.canvas.valid with
      | false => rw [offer_of_released h]
      | true =>
        -- the new bitmap is counted before the one that it replaces is taken away
        rw [offer, select_of_valid h]
        dsimp only
        rw [Canvas.live_discount, Counters.live_acquire_option hknown]
        by_cases hu : s.canvas.tracker = some u
        · cases hsel : s.canvas.selected <;> simp [Canvas.holds, hu, hsel]
        · simp [Canvas.holds, hu]

end TrackedCanvas

/-! ## The invariant -/

namespace Session

variable {s s' : Session}

/-- The number of canvases that show a bitmap which is counted in a tracker. -/
def holders (s : Session) (t : Tracker) : Nat := s.canvases.count fun c => c.holds t

/-- The counts of a session are right. -/
structure Balanced (s : Session) : Prop where
  live_eq : ∀ t, s.counters.live t = s.holders t
  canvas_known : ∀ name c, s.canvases.get? name = some c → s.counters.Knows c.tracker
  name_known : ∀ name, s.counters.Knows (s.trackers.get? name)
  released : ∀ name c, s.canvases.get? name = some c → c.valid = false → c.selected = none

lemma balanced_empty : Balanced empty where
  live_eq _ := rfl
  canvas_known _ _ h := nomatch h
  name_known _ _ h := nomatch h
  released _ _ h := nomatch h

namespace Balanced

variable (hs : s.Balanced)

include hs

lemma findTracker_known {tracker : Option String} {t : Option Tracker}
    (h : s.findTracker tracker = .ok t) : s.counters.Knows t := by
  cases tracker with
  | none =>
    cases h
    exact nofun
  | some name =>
    rw [findTracker] at h
    split at h
    · next t' ht' =>
      cases h
      rw [← ht']
      exact hs.name_known name
    · cases h

/-- A canvas that shows a bitmap is among those that its tracker counts. -/
lemma holds_le_live {name : String} {c : Canvas} (hc : s.canvases.get? name = some c)
    (t : Tracker) : (c.holds t).toNat ≤ s.counters.live t := by
  have hsum := s.canvases.count_erase name fun c => c.holds t
  rw [hc, Option.any_some] at hsum
  rw [hs.live_eq, holders]
  omega

lemma create (name : String) :
    Balanced { s with
      trackers := s.trackers.insert name s.counters.create.1
      counters := s.counters.create.2 } := by
  have hlength : s.counters.create.2.counts.length = s.counters.counts.length + 1 :=
    List.length_append
  have hle : s.counters.counts.length ≤ s.counters.create.2.counts.length := by omega
  refine ⟨?_, fun name' c hc => (hs.canvas_known name' c hc).mono hle, ?_, hs.released⟩
  · intro t
    exact (Counters.live_create s.counters t).trans (hs.live_eq t)
  · intro name'
    dsimp only
    rw [Dictionary.get?_insert]
    split
    · rintro u ⟨⟩
      rw [hlength]
      exact Nat.lt_succ_self _
    · exact (hs.name_known name').mono hle

/-- A canvas and the counts change together. -/
lemma put {name : String} {c : Canvas} (hc : s.canvases.get? name = some c) {t : TrackedCanvas}
    (hlive : ∀ u, t.counters.live u + (c.holds u).toNat =
      s.counters.live u + (t.canvas.holds u).toNat)
    (hlength : t.counters.counts.length = s.counters.counts.length)
    (htracker : t.canvas.tracker = c.tracker)
    (hreleased : t.canvas.valid = false → t.canvas.selected = none) :
    Balanced (s.put name t) := by
  have hcanvas := hs.canvas_known name c hc
  rw [← htracker] at hcanvas
  refine ⟨?_, ?_, fun name' => (hs.name_known name').mono hlength.ge,
    Dictionary.forall_get?_insert name hs.released hreleased⟩
  · intro u
    have hsum := s.canvases.count_insert name t.canvas fun c => c.holds u
    have hbefore := hs.live_eq u
    have hafter := hlive u
    rw [hc, Option.any_some] at hsum
    show t.counters.live u = (s.canvases.insert name t.canvas).count fun c => c.holds u
    rw [holders] at hbefore
    omega
  · intro name' c' hc'
    have hall := Dictionary.forall_get?_insert name hs.canvas_known hcanvas
    exact (hall name' c' hc').mono hlength.ge

lemma dropCanvas (name : String) : Balanced (s.dropCanvas name) := by
  rw [Session.dropCanvas]
  split
  · exact hs
  · next c hc =>
    have hle : s.counters.counts.length ≤ (c.discount s.counters).counts.length :=
      (Canvas.length_discount ..).ge
    refine ⟨?_, ?_, fun name' => (hs.name_known name').mono hle,
      Dictionary.forall_get?_erase name hs.released⟩
    · intro u
      have hsum := s.canvases.count_erase name fun c => c.holds u
      have hlive := hs.live_eq u
      rw [hc, Option.any_some] at hsum
      rw [holders] at hlive
      show (c.discount s.counters).live u = (s.canvases.erase name).count fun c => c.holds u
      rw [Canvas.live_discount]
      omega
    · intro name' c' hc'
      exact (Dictionary.forall_get?_erase name hs.canvas_known name' c' hc').mono hle

end Balanced

lemma get?_dropCanvas (s : Session) (name : String) :
    (s.dropCanvas name).canvases.get? name = none := by
  rw [dropCanvas]
  split
  · assumption
  · exact (Dictionary.get?_erase ..).trans (if_pos rfl)

lemma findTracker_dropCanvas (s : Session) (name : String) (tracker : Option String) :
    (s.dropCanvas name).findTracker tracker = s.findTracker tracker := by
  rw [dropCanvas]
  split <;> rfl

namespace Balanced

variable (hs : s.Balanced)

include hs

/-- A new canvas shows nothing. -/
lemma newCanvas {name : String} (hname : s.canvases.get? name = none) {t : Option Tracker}
    (ht : s.counters.Knows t) :
    Balanced { s with canvases := s.canvases.insert name (.new t) } := by
  refine ⟨?_, Dictionary.forall_get?_insert name hs.canvas_known ht, hs.name_known,
    Dictionary.forall_get?_insert name hs.released fun _ => rfl⟩
  intro u
  have hsum := s.canvases.count_insert name (.new t) fun c => c.holds u
  rw [hname, Option.any_none, show (Canvas.new t).holds u = false from Bool.and_false _] at hsum
  exact (hs.live_eq u).trans hsum.symm

/-- Every effect keeps the counts right. -/
lemma effect {d : Deed} {success : Bool} (h : Effect s d success s') : s'.Balanced := by
  cases h with
  | elsewhere files loaders => exact ⟨hs.live_eq, hs.canvas_known, hs.name_known, hs.released⟩
  | tracker name => exact hs.create name
  | canvas name tracker t ht =>
    have hdropped := hs.dropCanvas name
    rw [← findTracker_dropCanvas s name] at ht
    exact hdropped.newCanvas (get?_dropCanvas s name) (hdropped.findTracker_known ht)
  | drop name => exact hs.dropCanvas name
  | call name c k hc =>
    exact hs.put hc
      (fun u => TrackedCanvas.live_call (hs.canvas_known name c hc) (hs.holds_le_live hc u) k)
      (TrackedCanvas.length_call _ k) (TrackedCanvas.tracker_call _ k)
      (TrackedCanvas.selected_call (hs.released name c hc) k)

end Balanced

lemma balanced_run (hs : s.Balanced) (acts : List Act) : (s.run acts).Balanced := by
  induction acts generalizing s with
  | nil => exact hs
  | cons a acts ih => exact ih (hs.effect (effect_act s a))

end Session

end Raster
