import Raster.Bitmap

/-!
# Surfaces

A surface shows one bitmap at a time.  `Surface.select` gives the surface a new bitmap in place of
the one it shows; it can fail, and it tells what the surface is like afterwards in either case.  A
surface is *atomic* if a failed selection changes nothing (`AtomicSurface`).

Two wrappers make surfaces out of surfaces: `Indirect` passes everything on, and `Forced` claims
to be valid whatever the surface below it says.  Both are atomic over an atomic surface.
-/

namespace Raster

/-- What can show a bitmap. -/
class Surface (σ : Type) where
  /-- Whether the surface says that it accepts bitmaps. -/
  isValid : σ → Bool
  /-- The dimensions of the bitmap that is shown. -/
  dimensions : σ → Option (Nat × Nat)
  /-- Shows a bitmap in place of the one that is shown. -/
  select : σ → Bitmap → Except Error Unit × σ

/-- A surface that a failed selection leaves as it was. -/
class AtomicSurface (σ : Type) [Surface σ] : Prop where
  eq_of_error : ∀ {s s' : σ} {b : Bitmap} {e : Error},
    Surface.select s b = (.error e, s') → s' = s

/-- A surface reached through another value. -/
structure Indirect (σ : Type) where
  target : σ

/-- A surface that claims to be valid. -/
structure Forced (σ : Type) where
  target : σ

variable {σ : Type} [Surface σ]

instance : Surface (Indirect σ) where
  isValid s := Surface.isValid s.target
  dimensions s := Surface.dimensions s.target
  select s b := ((Surface.select s.target b).1, ⟨(Surface.select s.target b).2⟩)

instance : Surface (Forced σ) where
  isValid _ := true
  dimensions s := Surface.dimensions s.target
  select s b := ((Surface.select s.target b).1, ⟨(Surface.select s.target b).2⟩)

instance [AtomicSurface σ] : AtomicSurface (Indirect σ) where
  eq_of_error {s s' b e} h := by
    have failed : (Surface.select s.target b).1 = .error e := congrArg Prod.fst h
    have after : s' = ⟨(Surface.select s.target b).2⟩ := (congrArg Prod.snd h).symm
    have kept : (Surface.select s.target b).2 = s.target :=
      AtomicSurface.eq_of_error (Prod.ext failed rfl)
    rw [after, kept]

instance [AtomicSurface σ] : AtomicSurface (Forced σ) where
  eq_of_error {s s' b e} h := by
    have failed : (Surface.select s.target b).1 = .error e := congrArg Prod.fst h
    have after : s' = ⟨(Surface.select s.target b).2⟩ := (congrArg Prod.snd h).symm
    have kept : (Surface.select s.target b).2 = s.target :=
      AtomicSurface.eq_of_error (Prod.ext failed rfl)
    rw [after, kept]

end Raster
