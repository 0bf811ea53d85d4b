import Raster.Proofs.Counts
import Mathlib

/-!
# Counts and what was done

What a user did to a session, and whether it went well, can be written down without looking into the
session: a tracker that was made, a canvas that was made and where it reports to, a release, a drop,
a selection (`Ledger.enter`).  The ledger of a run then tells which canvases there are, with which
trackers, which of them have been released and which show a bitmap.  It does not know of counts.

The ledger of a run describes the session at its end (`Ledger.describes_run`), because it does so
after each effect.  So counts can be told from what was done alone (`Session.live_exact`): the count
of a tracker is the number of canvases in the ledger that were made with it and show a bitmap, a
release or a drop takes the bitmap of its canvas off the count and nothing else, and once all
canvases made with a tracker have been released or dropped its count is zero.
-/

namespace Raster

open Session (Act Deed Effect callDeed effect_act)

/-! ## Ledgers -/

/-- What is written down of a canvas. -/
structure Ledger.Item where
  /-- The tracker that the canvas was made with. -/
  tracker : Option Tracker
  released : Bool
  /-- The canvas shows a bitmap. -/
  shows : Bool
deriving DecidableEq

/-- What is written down of a session.  Trackers are numbered as they are made. -/
structure Ledger where
  /-- The number of trackers that were made. -/
  made : Nat
  /-- The last tracker that was made under a name. -/
  trackers : Dictionary String Tracker
  canvases : Dictionary String Ledger.Item

namespace Ledger

/-- Nothing is written down. -/
def empty : Ledger := ⟨0, .empty, .empty⟩

/-- Changes what is written down of a canvas. -/
def amend (l : Ledger) (name : String) (f : Item → Item) : Ledger :=
  match l.canvases.get? name with
  | some i => { l with canvases := l.canvases.insert name (f i) }
  | none => l

/-- Writes down a deed that went well. -/
def enter (l : Ledger) : Deed → Ledger
  | .elsewhere => l
  | .tracker name => { l with made := l.made + 1, trackers := l.trackers.insert name ⟨l.made⟩ }
  | .canvas name tracker =>
    { l with canvases :=
        (l.canvases.erase name).insert name ⟨tracker.bind l.trackers.get?, false, false⟩ }
  | .drop name => { l with canvases := l.canvases.erase name }
  | .release name => l.amend name fun i => ⟨i.tracker, true, false⟩
  | .select name => l.amend name fun i => { i with shows := true }

/-- Writes down a deed if it went well. -/
def note (l : Ledger) (d : Deed) (success : Bool) : Ledger := if success then l.enter d else l

/-- The number of canvases that were made with a tracker and show a bitmap. -/
def count (l : Ledger) (t : Tracker) : Nat :=
  l.canvases.count fun i => i.tracker = some t && i.shows

end Ledger

/-- What is written down in a run of a session: what each act means to do, and whether it goes
well. -/
def Session.ledger (s : Session) (l : Ledger) : List Act → Ledger
  | [] => l
  | a :: acts => (s.act a).ledger (l.note a.deed (s.answer a)) acts

/-! ## A ledger describes its session -/

/-- What there is to write down of a canvas. -/
def Canvas.item (c : Canvas) : Ledger.Item := ⟨c.tracker, !c.valid, c.selected.isSome⟩

namespace Ledger

/-- A ledger is right about trackers and canvases. -/
structure Describes (l : Ledger) (s : Session) : Prop where
  made : l.made = s.counters.counts.length
  trackers : l.trackers = s.trackers
  canvases : l.canvases = s.canvases.map Canvas.item

lemma describes_empty : Describes empty Session.empty := ⟨rfl, rfl, rfl⟩

variable {l : Ledger} {s : Session}

lemma Describes.get? (h : l.Describes s) (name : String) :
    l.canvases.get? name = (s.canvases.get? name).map Canvas.item := by
  rw [h.canvases, Dictionary.get?_map]

lemma Describes.count (h : l.Describes s) (t : Tracker) : l.count t = s.holders t := by
  rw [Ledger.count, h.canvases, Dictionary.count_map]
  rfl

end Ledger

namespace Session

variable {s : Session}

lemma canvases_dropCanvas (s : Session) (name : String) :
    (s.dropCanvas name).canvases = s.canvases.erase name := by
  rw [dropCanvas]
  split
  · next hnone => rw [Dictionary.erase_of_get? hnone]
  · rfl

lemma trackers_dropCanvas (s : Session) (name : String) :
    (s.dropCanvas name).trackers = s.trackers := by
  rw [dropCanvas]
  split <;> rfl

lemma length_dropCanvas (s : Session) (name : String) :
    (s.dropCanvas name).counters.counts.length = s.counters.counts.length := by
  rw [dropCanvas]
  split
  · rfl
  · exact Canvas.length_discount ..

/-- The tracker that a new canvas reports to is the last one of its name. -/
lemma bind_of_findTracker {tracker : Option String} {t : Option Tracker}
    (h : s.findTracker tracker = .ok t) : tracker.bind s.trackers.get? = t := by
  cases tracker with
  | none => exact Except.ok.inj h
  | some name =>
    rw [findTracker] at h
    split at h
    · next t' ht' => exact ht'.trans (Except.ok.inj h)
    · cases h

end Session

/-- A call that gives the canvas a bitmap changes no more than that, and nothing if it fails. -/
lemma TrackedCanvas.item_call {s : TrackedCanvas} {k : Canvas.Call} (hk : k ≠ .release) :
    (s.call k).2.canvas.item =
      if (s.call k).1 then { s.canvas.item with shows := true } else s.canvas.item := by
  rw [call_eq hk]
  cases hvalid : s.canvas.valid with
  | false => rw [offer_of_released hvalid, if_neg Bool.false_ne_true]
  | true =>
    rw [canvas_offer hvalid]
    cases k.bitmap? with
    | none => rfl
    | some b => rfl

namespace Ledger

variable {l : Ledger} {s s' : Session}

lemma amend_of_get? {i : Item} {name : String} (h : l.canvases.get? name = some i)
    (f : Item → Item) : l.amend name f = { l with canvases := l.canvases.insert name (f i) } := by
  rw [amend, h]

/-- A canvas that changes is written down anew. -/
lemma Describes.put (h : l.Describes s) (name : String) {t : TrackedCanvas} {i : Item}
    (hi : t.canvas.item = i) (hlength : t.counters.counts.length = s.counters.counts.length) :
    Describes { l with canvases := l.canvases.insert name i } (s.put name t) := by
  refine ⟨h.made.trans hlength.symm, h.trackers, ?_⟩
  show l.canvases.insert name i = (s.canvases.insert name t.canvas).map Canvas.item
  rw [h.canvases, Dictionary.map_insert, hi]

/-- A call is written down if it goes well. -/
lemma Describes.call (h : l.Describes s) {name : String} {c : Canvas}
    (hc : s.canvases.get? name = some c) (k : Canvas.Call) :
    Describes (l.note (callDeed name k) ((s.tracked c).call k).1)
      (s.put name ((s.tracked c).call k).2) := by
  have hlength := TrackedCanvas.length_call (s.tracked c) k
  have hitem : l.canvases.get? name = some c.item := by
    rw [h.get?, hc]
    rfl
  by_cases hk : k = .release
  · subst hk
    show Describes (l.amend name _) _
    rw [amend_of_get? hitem]
    exact h.put name rfl hlength
  · have hdeed : callDeed name k = .select name := by
      cases k with
      | release => exact absurd rfl hk
      | _ => rfl
    have hafter := TrackedCanvas.item_call (s := s.tracked c) hk
    rw [hdeed]
    cases hsuccess : ((s.tracked c).call k).1 with
    | true =>
      show Describes (l.amend name _) _
      rw [amend_of_get? hitem]
      exact h.put name (hafter.trans (if_pos hsuccess)) hlength
    | false =>
      -- the canvas is put back as it was
      have hsame : l.canvases.insert name (s.tracked c).canvas.item = l.canvases :=
        Dictionary.assign_get? hitem
      have hput := h.put name (hafter.trans (if_neg (by rw [hsuccess]; decide))) hlength
      rw [hsame] at hput
      exact hput

/-- Every effect is written down as it should be. -/
lemma Describes.effect (h : l.Describes s) {d : Deed} {success : Bool}
    (he : Effect s d success s') : Describes (l.note d success) s' := by
  cases he with
  | elsewhere files loaders hd =>
    have hsame : l.note d success = l := by
      cases success with
      | false => rfl
      | true =>
        rw [hd rfl]
        rfl
    rw [hsame]
    exact ⟨h.made, h.trackers, h.canvases⟩
  | tracker name =>
    refine ⟨?_, ?_, h.canvases⟩
    · show l.made + 1 = (s.counters.counts ++ [0]).length
      rw [h.made, List.length_append, List.length_singleton]
    · show l.trackers.insert name ⟨l.made⟩ = s.trackers.insert name ⟨s.counters.counts.length⟩
      rw [h.made, h.trackers]
  | canvas name tracker t ht =>
    refine ⟨h.made.trans (s.length_dropCanvas name).symm,
      h.trackers.trans (s.trackers_dropCanvas name).symm, ?_⟩
    show (l.canvases.erase name).insert name ⟨tracker.bind l.trackers.get?, false, false⟩ =
      ((s.dropCanvas name).canvases.insert name (.new t)).map Canvas.item
    rw [Dictionary.map_insert, s.canvases_dropCanvas, Dictionary.map_erase, h.canvases, h.trackers,
      Session.bind_of_findTracker ht]
    rfl
  | drop name =>
    refine ⟨h.made.trans (s.length_dropCanvas name).symm,
      h.trackers.trans (s.trackers_dropCanvas name).symm, ?_⟩
    show l.canvases.erase name = (s.dropCanvas name).canvases.map Canvas.item
    rw [s.canvases_dropCanvas, Dictionary.map_erase, h.canvases]
  | call name c k hc => exact h.call hc k

/-- The ledger of a run describes the session at its end. -/
lemma describes_run (h : l.Describes s) (acts : List Act) :
    (s.ledger l acts).Describes (s.run acts) := by
  induction acts generalizing l s with
  | nil => exact h
  | cons a acts ih => exact ih (h.effect (effect_act s a))

end Ledger

namespace Session

variable {s s' : Session}

/-! ## The end of a canvas -/

/-- A deed ends what a canvas shows: it releases the canvas or drops it. -/
def Deed.Ends (d : Deed) (name : String) : Prop := d = .release name ∨ d = .drop name

/-- There is no canvas of this name that has not been released. -/
def Ended (s : Session) (name : String) : Prop :=
  ∀ c, s.canvases.get? name = some c → c.valid = false

/-- The acts by which a canvas is released or dropped. -/
lemma eq_of_ends {a : Act} {name : String} (ha : a.deed.Ends name) :
    a = .step (.release name) ∨ a = .call name .release ∨ a = .step (.drop name) := by
  cases a with
  | step a => cases a <;> simp_all [Deed.Ends, Act.deed, Step.deed]
  | call canvas k => cases k <;> simp_all [Deed.Ends, Act.deed, callDeed]

/-- A step that releases a canvas calls it. -/
lemma act_release (s : Session) (name : String) :
    s.act (.step (.release name)) = s.act (.call name .release) := by
  simp only [act, step, findCanvas]
  cases s.canvases.get? name <;> rfl

lemma act_drop (s : Session) (name : String) :
    s.act (.step (.drop name)) = s.dropCanvas name := by
  simp only [act, step, findCanvas, dropCanvas]
  cases s.canvases.get? name <;> rfl

lemma act_call {name : String} {c : Canvas} (hc : s.canvases.get? name = some c)
    (k : Canvas.Call) : s.act (.call name k) = s.put name ((s.tracked c).call k).2 := by
  rw [act, hc]

/-- A deed that ends what a canvas shows takes that off the counts, and nothing else. -/
lemma live_of_ends (hs : s.Balanced) {a : Act} {name : String} (ha : a.deed.Ends name) {c : Canvas}
    (hc : s.canvases.get? name = some c) (t : Tracker) :
    (s.act a).counters.live t + (c.holds t).toNat = s.counters.live t := by
  have hcounted : (c.holds t).toNat ≤ s.counters.live t := hs.holds_le_live hc t
  have hrelease : (s.act (.call name .release)).counters = c.discount s.counters := by
    rw [act_call hc]
    rfl
  have hdrop : (s.act (.step (.drop name))).counters = c.discount s.counters := by
    rw [act_drop, dropCanvas, hc]
  rcases eq_of_ends ha with rfl | rfl | rfl
  · rw [act_release, hrelease]
    exact c.live_discount_add hcounted
  · rw [hrelease]
    exact c.live_discount_add hcounted
  · rw [hdrop]
    exact c.live_discount_add hcounted

/-- After a release or a drop there is no canvas of the name that has not been released. -/
lemma ended_of_ends {a : Act} {name : String} (ha : a.deed.Ends name) : (s.act a).Ended name := by
  have hrelease : (s.act (.call name .release)).Ended name := by
    intro c hc
    cases hbefore : s.canvases.get? name with
    | none =>
      rw [act, hbefore, hbefore] at hc
      cases hc
    | some c' =>
      rw [act_call hbefore, put, Dictionary.get?_insert, if_pos rfl] at hc
      obtain rfl := Option.some.inj hc
      rfl
  rcases eq_of_ends ha with rfl | rfl | rfl
  · rw [act_release]
    exact hrelease
  · exact hrelease
  · intro c hc
    rw [act_drop, get?_dropCanvas] at hc
    cases hc

/-- A deed that makes no canvas leaves a canvas its tracker, and does not bring it back once it has
been released. -/
lemma exists_of_effect {d : Deed} {success : Bool} (he : Effect s d success s')
    (hd : ∀ name tracker, d ≠ .canvas name tracker) {name : String} {c' : Canvas}
    (hc' : s'.canvases.get? name = some c') :
    ∃ c, s.canvases.get? name = some c ∧ c.tracker = c'.tracker ∧
      (c.valid = false → c'.valid = false) := by
  cases he with
  | elsewhere files loaders => exact ⟨c', hc', rfl, id⟩
  | tracker => exact ⟨c', hc', rfl, id⟩
  | canvas name tracker => exact absurd rfl (hd name tracker)
  | drop dropped =>
    rw [canvases_dropCanvas, Dictionary.get?_erase] at hc'
    split at hc'
    · cases hc'
    · exact ⟨c', hc', rfl, id⟩
  | call called c k hc =>
    rw [put, Dictionary.get?_insert] at hc'
    split at hc'
    · next hname =>
      obtain rfl := Option.some.inj hc'
      rw [hname]
      refine ⟨c, hc, (TrackedCanvas.tracker_call (s.tracked c) k).symm, fun hvalid => ?_⟩
      by_cases hk : k = .release
      · rw [hk]
        rfl
      · rw [TrackedCanvas.call_eq hk, TrackedCanvas.offer_of_released (by exact hvalid)]
        exact hvalid
    · exact ⟨c', hc', rfl, id⟩

/-- If each canvas with a tracker is released or dropped, and no more canvases are made, all that is
left in the end has been released. -/
lemma valid_of_ends {ends : List Act} {t : Tracker}
    (hends : ∀ a ∈ ends, ∀ name tracker, a.deed ≠ .canvas name tracker)
    (h : ∀ name c, s.canvases.get? name = some c → c.tracker = some t →
      c.valid = false ∨ ∃ a ∈ ends, a.deed.Ends name) :
    ∀ name c, (s.run ends).canvases.get? name = some c → c.tracker = some t → c.valid = false := by
  induction ends generalizing s with
  | nil =>
    intro name c hc ht
    rcases h name c hc ht with hvalid | ⟨a, ha, -⟩
    · exact hvalid
    · cases ha
  | cons a ends ih =>
    rw [List.forall_mem_cons] at hends
    refine ih (s := s.act a) hends.2 fun name c' hc' ht => ?_
    obtain ⟨c, hc, htracker, hkeeps⟩ := exists_of_effect (effect_act s a) hends.1 hc'
    rcases h name c hc (htracker.trans ht) with hvalid | ⟨e, he, hname⟩
    · exact Or.inl (hkeeps hvalid)
    · rcases List.mem_cons.1 he with rfl | he
      · exact Or.inl (ended_of_ends hname c' hc')
      · exact Or.inr ⟨e, he, hname⟩

lemma run_append (s : Session) (acts ends : List Act) :
    s.run (acts ++ ends) = (s.run acts).run ends := List.foldl_append

/-! ## Counts -/

/-- A tracker that counts something has a canvas that has not been released. -/
lemma Balanced.live_eq_zero (hs : s.Balanced) {t : Tracker}
    (ht : ∀ name c, s.canvases.get? name = some c → c.tracker = some t → c.valid = false) :
    s.counters.live t = 0 := by
  rw [hs.live_eq]
  apply Dictionary.count_eq_zero
  intro name c hc
  by_cases htracker : c.tracker = some t
  · rw [Canvas.holds, hs.released name c hc (ht name c hc htracker)]
    exact Bool.and_false _
  · rw [Canvas.holds, decide_eq_false htracker, Bool.false_and]

/-- **Counts are exact.**  After every run of a session, the ledger of what was done tells which
canvases there are, which trackers they were made with, which of them have been released and which
show a bitmap; and the count of a tracker is the number of those that were made with it and show a
bitmap.  A release or a drop takes the bitmap that its canvas shows off the count, and nothing else.
A count is lowered only then, or by a selection that has just counted the next bitmap; in all cases
the bitmap had been counted, so that the subtraction does not stop at zero.  Once all canvases that
were made with a tracker have been released or dropped, its count is zero: be it that the ledger
says so, or that the run goes on until this has happened, whatever else happens but that more
canvases are made. -/
theorem live_exact (acts : List Act) :
    let s := empty.run acts
    let l := empty.ledger .empty acts
    (∀ t, s.counters.live t = l.count t) ∧
    (∀ name, (s.canvases.get? name).map (fun c => (c.tracker, c.valid, c.selected.isSome)) =
      (l.canvases.get? name).map fun i => (i.tracker, !i.released, i.shows)) ∧
    (∀ name, s.trackers.get? name = l.trackers.get? name) ∧
    (∀ name c t, s.canvases.get? name = some c →
      (∀ a : Act, a.deed.Ends name →
        (s.act a).counters.live t + (c.holds t).toNat = s.counters.live t) ∧
      (c.discount s.counters).live t + (c.holds t).toNat = s.counters.live t ∧
      (c.discount (s.counters.acquire c.tracker)).live t + (c.holds t).toNat =
        (s.counters.acquire c.tracker).live t) ∧
    (∀ t, (∀ name i, l.canvases.get? name = some i → i.tracker = some t → i.released = true) →
      s.counters.live t = 0) ∧
    ∀ t (ends : List Act), (∀ a ∈ ends, ∀ name tracker, a.deed ≠ .canvas name tracker) →
      (∀ name i, l.canvases.get? name = some i → i.tracker = some t →
        ∃ a ∈ ends, a.deed.Ends name) →
      (empty.run (acts ++ ends)).counters.live t = 0 := by
  intro s l
  have hs : s.Balanced := balanced_run balanced_empty acts
  have hl : l.Describes s := Ledger.describes_run Ledger.describes_empty acts
  have hitem : ∀ {name c}, s.canvases.get? name = some c →
      l.canvases.get? name = some c.item := by
    intro name c hc
    rw [hl.get?, hc]
    rfl
  refine ⟨fun t => (hs.live_eq t).trans (hl.count t).symm, ?_, ?_, ?_, ?_, ?_⟩
  · intro name
    rw [hl.get?, Option.map_map]
    refine Option.map_congr fun c _ => ?_
    simp [Canvas.item]
  · intro name
    rw [hl.trackers]
  · intro name c t hc
    have hcounted : (c.holds t).toNat ≤ s.counters.live t := hs.holds_le_live hc t
    refine ⟨fun a ha => live_of_ends hs ha hc t, c.live_discount_add hcounted,
      c.live_discount_add ?_⟩
    rw [Counters.live_acquire_option (hs.canvas_known name c hc)]
    exact Nat.le_add_right_of_le hcounted
  · intro t ht
    refine hs.live_eq_zero fun name c hc htracker => ?_
    have hreleased : (!c.valid) = true := ht name c.item (hitem hc) htracker
    rwa [Bool.not_eq_true'] at hreleased
  · intro t ends hends ht
    rw [run_append]
    refine (balanced_run hs ends).live_eq_zero (valid_of_ends hends fun name c hc htracker => ?_)
    exact Or.inr (ht name c.item (hitem hc) htracker)

/-- Two canvases with one tracker, whose name then goes to another tracker that a third canvas is
made with.  All three show a bitmap of one pixel. -/
def replacing : List Act :=
  [.step (.tracker "t"), .step (.canvas "a" (some "t")), .step (.canvas "b" (some "t")),
    .step (.select "a" 1 1 [0, 0, 0, 0xff]), .step (.select "b" 1 1 [0, 0, 0, 0xff]),
    .step (.tracker "t"), .step (.canvas "c" (some "t")),
    .step (.select "c" 1 1 [0, 0, 0, 0xff])]

/-- The first tracker counts two bitmaps and the second one.  When one of the first two canvases is
released, a bitmap is left; when the other one is dropped too, none is. -/
theorem live_exact_sample :
    (empty.run replacing).counters.live ⟨0⟩ = 2 ∧ (empty.run replacing).counters.live ⟨1⟩ = 1 ∧
      ((empty.run replacing).act (.step (.release "a"))).counters.live ⟨0⟩ = 1 ∧
      (empty.run (replacing ++ [.step (.release "a"), .step (.drop "b")])).counters.live ⟨0⟩ =
        0 := by
  obtain ⟨hlive, -, -, hcanvas, -, hends⟩ := live_exact replacing
  have hfirst : (empty.run replacing).counters.live ⟨0⟩ = 2 := by
    rw [hlive]
    cbv
  have hholds : ((empty.run replacing).canvases.get? "a").map (·.holds ⟨0⟩) = some true := by cbv
  obtain ⟨c, hc, hholds⟩ := Option.map_eq_some_iff.1 hholds
  refine ⟨hfirst, ?_, ?_, hends ⟨0⟩ [.step (.release "a"), .step (.drop "b")] ?_ ?_⟩
  · rw [hlive]
    cbv
  · have hafter := (hcanvas "a" c ⟨0⟩ hc).1 (.step (.release "a")) (Or.inl rfl)
    rw [hfirst, hholds] at hafter
    exact Nat.succ.inj hafter
  · intro a ha name tracker hdeed
    simp only [List.mem_cons, List.not_mem_nil, or_false] at ha
    rcases ha with rfl | rfl <;> cases hdeed
  · intro name i hi ht
    have hentries : (empty.ledger .empty replacing).canvases.entries =
        [("a", ⟨some ⟨0⟩, false, true⟩), ("b", ⟨some ⟨0⟩, false, true⟩),
          ("c", ⟨some ⟨1⟩, false, true⟩)] := by cbv
    have hmem := Dictionary.mem_of_get? hi
    rw [hentries] at hmem
    simp only [List.mem_cons, List.not_mem_nil, or_false, Prod.mk.injEq] at hmem
    rcases hmem with ⟨rfl, rfl⟩ | ⟨rfl, rfl⟩ | ⟨rfl, rfl⟩
    · exact ⟨_, List.mem_cons_self, Or.inl rfl⟩
    · exact ⟨_, List.mem_cons_of_mem _ List.mem_cons_self, Or.inr rfl⟩
    · cases ht

end Session

end Raster
