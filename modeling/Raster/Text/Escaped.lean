import Raster.Text.Hex

/-!
# Bytes as escaped ASCII text

Bytes of unknown meaning are shown as text: printable ASCII characters stand for themselves, except
that quotes and the backslash carry a backslash; tab, carriage return and line feed have a letter;
every other byte is written as `\x` and two hexadecimal digits.
-/

namespace Raster.Escaped

/-- The escaped text of one byte. -/
def ofByte (b : UInt8) : String :=
  if b = 0x09 then "\\t"
  else if b = 0x0a then "\\n"
  else if b = 0x0d then "\\r"
  else if b = 0x22 then "\\\""
  else if b = 0x27 then "\\'"
  else if b = 0x5c then "\\\\"
  else if 0x20 ≤ b ∧ b < 0x7f then String.singleton (Char.ofNat b.toNat)
  else "\\x" ++ Hex.padded 2 b.toNat

/-- The escaped text of a sequence of bytes. -/
def ofBytes (bytes : List UInt8) : String := String.join (bytes.map ofByte)

end Raster.Escaped
