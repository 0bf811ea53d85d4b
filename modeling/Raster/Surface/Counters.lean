import Raster.Text.Layout

/-!
# Counters of selected bitmaps

A tracker counts the bitmaps that are selected into the canvases that report to it.  Several
canvases can share a tracker, so the counts are kept in one place: `Counters` holds the count of
every tracker, and a `Tracker` is the number of its counter.
-/

namespace Raster

/-- A tracker, by the number of its counter. -/
structure Tracker where
  index : Nat
deriving DecidableEq

/-- The counts of all trackers. -/
structure Counters where
  counts : List Nat
deriving DecidableEq

namespace Counters

/-- There are no trackers. -/
def empty : Counters := ⟨[]⟩

/-- The count of a tracker. -/
def live (c : Counters) (t : Tracker) : Nat := c.counts[t.index]?.getD 0

/-- A new tracker, whose count is 0. -/
def create (c : Counters) : Tracker × Counters := (⟨c.counts.length⟩, ⟨c.counts ++ [0]⟩)

/-- Counts one bitmap more for a tracker, if there is one. -/
def acquire (c : Counters) : Option Tracker → Counters
  | none => c
  | some t => ⟨c.counts.modify t.index (· + 1)⟩

/-- Counts one bitmap less for a tracker, if there is one. -/
def release (c : Counters) : Option Tracker → Counters
  | none => c
  | some t => ⟨c.counts.modify t.index (· - 1)⟩

/-- A tracker is displayed with its count, under one of its names. -/
def layout (c : Counters) (name : String) (t : Tracker) : Layout :=
  .record name [("live", .nat (c.live t))] false

theorem live_acquire (c : Counters) (t u : Tracker) (h : t.index < c.counts.length) :
    (c.acquire (some t)).live u = c.live u + if u = t then 1 else 0 := by
  obtain ⟨t⟩ := t
  obtain ⟨u⟩ := u
  simp only [live, acquire, List.getElem?_modify, Tracker.mk.injEq]
  by_cases hu : t = u
  · subst hu
    simp [List.getElem?_eq_getElem h]
  · simp [hu, Ne.symm hu]

theorem live_release (c : Counters) (t u : Tracker) :
    (c.release (some t)).live u = c.live u - if u = t then 1 else 0 := by
  obtain ⟨t⟩ := t
  obtain ⟨u⟩ := u
  simp only [live, release, List.getElem?_modify, Tracker.mk.injEq]
  by_cases hu : t = u
  · subst hu
    cases c.counts[t]? <;> simp
  · simp [hu, Ne.symm hu]

end Counters

end Raster
