import Raster.Bitmap
import Raster.Bytes.Pieces

/-!
# Color tables

Pixels of up to 8 bits are indices into a table.  An entry is stored as blue, green, red and a
reserved byte, and stands for an opaque color.
-/

namespace Raster.Bmp

/-- An entry of a color table. -/
structure TableEntry where
  blue : UInt8
  green : UInt8
  red : UInt8
  reserved : UInt8
deriving DecidableEq

namespace TableEntry

/-- The entry that four bytes hold; bytes that are absent count as 0. -/
def ofBytes (record : Bytes) : TableEntry where
  blue := record[0]?.getD 0
  green := record[1]?.getD 0
  red := record[2]?.getD 0
  reserved := record[3]?.getD 0

/-- The four bytes of an entry. -/
def toBytes (e : TableEntry) : Bytes := [e.blue, e.green, e.red, e.reserved]

/-- The color of an entry. -/
def color (e : TableEntry) : Color := ⟨e.red, e.green, e.blue, 0xff⟩

/-- An entry is displayed by the hexadecimal digits of its red, green and blue byte. -/
def layout (e : TableEntry) : Layout :=
  .atom ("#" ++ String.join ([e.red, e.green, e.blue].map fun b => Hex.padded 2 b.toNat))

@[simp] theorem ofBytes_toBytes (e : TableEntry) : ofBytes e.toBytes = e := rfl

end TableEntry

/-- The colors that the indices of a picture stand for. -/
abbrev ColorTable := List TableEntry

namespace ColorTable

/-- The table of `count` entries at the start of some bytes. -/
def ofBytes (count : Nat) (bytes : Bytes) : ColorTable := (pieces count 4 bytes).map .ofBytes

/-- The bytes of a table. -/
def toBytes (table : ColorTable) : Bytes := table.flatMap TableEntry.toBytes

/-- A table is displayed as the list of its entries. -/
def layout (table : ColorTable) : Layout := .list (table.map TableEntry.layout)

end ColorTable

end Raster.Bmp
