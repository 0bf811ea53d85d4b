/-!
# Hexadecimal numerals

Numerals in base 16 with lowercase digits: the shortest one (`Hex.numeral`), and the one padded
with zeros on the left to a least width (`Hex.padded`).
-/

namespace Raster.Hex

/-- The shortest hexadecimal numeral of a number. -/
def numeral (v : Nat) : String := String.ofList (Nat.toDigits 16 v)

/-- The hexadecimal numeral of a number with at least `width` digits. -/
def padded (width v : Nat) : String :=
  let digits := Nat.toDigits 16 v
  String.ofList (List.replicate (width - digits.length) '0' ++ digits)

end Raster.Hex
