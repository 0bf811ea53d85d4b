import Raster.Bytes.LittleEndian

/-!
# Row filters

Each row of a PNG picture is stored as differences from a prediction.  The byte before a row names
one of five ways to predict a byte from three that are known: the one a pixel to the left, the one
above, and the one above a pixel to the left.  Bytes beyond the picture count as 0.
-/

namespace Raster.Png

/-- A way to predict a byte. -/
inductive Filter where
  /-- Nothing is predicted. -/
  | none
  /-- The byte to the left. -/
  | left
  /-- The byte above. -/
  | up
  /-- The mean of the two, rounded down. -/
  | average
  /-- The one of the three that is nearest to left plus up minus corner. -/
  | nearest
deriving DecidableEq

namespace Filter

/-- The filter of a code. -/
def ofCode? : UInt8 → Option Filter
  | 0 => some none
  | 1 => some left
  | 2 => some up
  | 3 => some average
  | 4 => some nearest
  | _ => Option.none

/-- The one of three bytes that is nearest to the first plus the second minus the third; the
earlier one if there are several. -/
def nearestOf (a b c : UInt8) : UInt8 :=
  let target : Int := a.toNat + b.toNat - c.toNat
  let distance (v : UInt8) : Nat := (target - v.toNat).natAbs
  if distance a ≤ distance b ∧ distance a ≤ distance c then a
  else if distance b ≤ distance c then b
  else c

/-- The predicted byte. -/
def predict (f : Filter) (a b c : UInt8) : UInt8 :=
  match f with
  | none => 0
  | left => a
  | up => b
  | average => .ofNat ((a.toNat + b.toNat) / 2)
  | nearest => nearestOf a b c

/-- The byte of a row that lies `step` bytes before a position. -/
def before (row : Array UInt8) (position step : Nat) : UInt8 :=
  if step ≤ position then row[position - step]?.getD 0 else 0

/-- The bytes of a row, from its differences and the row above; pixels are `step` bytes apart. -/
def restore (f : Filter) (step : Nat) (above : Array UInt8) (differences : Bytes) : Array UInt8 :=
  differences.foldl
    (fun row d =>
      let i := row.size
      row.push (d + f.predict (before row i step) (before above i 0) (before above i step)))
    #[]

/-- The rows whose differences are given, each after the byte that names its filter. -/
def restoreRows? (step : Nat) (above : Array UInt8) : List Bytes → Option (List (Array UInt8))
  | [] => some []
  | [] :: _ => Option.none
  | (code :: differences) :: rest => do
    let row := (← ofCode? code).restore step above differences
    return row :: (← restoreRows? step row rest)

end Filter

end Raster.Png
