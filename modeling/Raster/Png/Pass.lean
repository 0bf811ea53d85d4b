/-!
# Passes over a picture

The pixels of a PNG picture are stored pass by pass.  A pass takes the pixels of a lattice, row by
row.  A plain picture has one pass over all pixels; an interlaced one has seven passes, which
together take every pixel once.
-/

namespace Raster.Png

/-- A lattice of pixels. -/
structure Pass where
  /-- The first column. -/
  x : Nat
  /-- The first row. -/
  y : Nat
  /-- The distance between columns. -/
  dx : Nat
  /-- The distance between rows. -/
  dy : Nat
deriving DecidableEq

namespace Pass

/-- The one pass of a plain picture. -/
def plain : List Pass := [⟨0, 0, 1, 1⟩]

/-- The seven passes of an interlaced picture. -/
def interlaced : List Pass :=
  [⟨0, 0, 8, 8⟩, ⟨4, 0, 8, 8⟩, ⟨0, 4, 4, 8⟩, ⟨2, 0, 4, 4⟩, ⟨0, 2, 2, 4⟩, ⟨1, 0, 2, 2⟩,
   ⟨0, 1, 1, 2⟩]

/-- The number of pixels that a pass takes from each row it takes. -/
def width (p : Pass) (pictureWidth : Nat) : Nat := (pictureWidth - p.x + p.dx - 1) / p.dx

/-- The number of rows from which a pass takes pixels: none if it takes nothing from a row. -/
def height (p : Pass) (pictureWidth pictureHeight : Nat) : Nat :=
  if p.width pictureWidth = 0 then 0 else (pictureHeight - p.y + p.dy - 1) / p.dy

/-- A pass takes a pixel. -/
def Covers (p : Pass) (x y : Nat) : Prop :=
  p.x ≤ x ∧ (x - p.x) % p.dx = 0 ∧ p.y ≤ y ∧ (y - p.y) % p.dy = 0

instance (p : Pass) (x y : Nat) : Decidable (p.Covers x y) :=
  inferInstanceAs (Decidable (_ ∧ _))

/-- The column that a pixel has among those of a pass. -/
def column (p : Pass) (x : Nat) : Nat := (x - p.x) / p.dx

/-- The row that a pixel has among those of a pass. -/
def row (p : Pass) (y : Nat) : Nat := (y - p.y) / p.dy

end Pass

end Raster.Png
