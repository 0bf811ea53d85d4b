import Raster.Bytes.Pieces
import Raster.Bytes.LittleEndian
import Raster.Error

/-!
# Reading from a position

A `Cursor` is a position in a sequence of bytes.  A read that finds the bytes it needs gives them
together with the position after them; a read that does not fails with `Error.endOfData`, and the
caller still has the cursor it started from.  No read leaves the data: from a position within the
data, the position after a read is within the data (`position_le_of_take`).
-/

namespace Raster

/-- A position in a sequence of bytes. -/
structure Cursor where
  data : Bytes
  position : Nat
deriving DecidableEq

namespace Cursor

/-- The start of the data. -/
def start (data : Bytes) : Cursor := ⟨data, 0⟩

/-- The bytes from the position on. -/
def remaining (c : Cursor) : Bytes := c.data.drop c.position

/-- The next `count` bytes, and the position after them. -/
def take (count : Nat) (c : Cursor) : Except Error (Bytes × Cursor) :=
  if count ≤ c.remaining.length then
    .ok (c.remaining.take count, { c with position := c.position + count })
  else .error .endOfData

/-- The 32-bit word at the position. -/
def peekUInt32 (c : Cursor) : Except Error UInt32 :=
  if 4 ≤ c.remaining.length then .ok (LittleEndian.u32At c.remaining 0) else .error .endOfData

/-- The next 32-bit word, and the position after it. -/
def takeUInt32 (c : Cursor) : Except Error (UInt32 × Cursor) := do
  let word ← c.peekUInt32
  return (word, { c with position := c.position + 4 })

/-- The next `count` records of `size` bytes, and the position after them. -/
def takeRecords {α : Type} (ofBytes : Bytes → α) (size count : Nat) (c : Cursor) :
    Except Error (List α × Cursor) := do
  let (bytes, rest) ← c.take (count * size)
  return ((pieces count size bytes).map ofBytes, rest)

theorem take_eq_ok_iff {count : Nat} {c c' : Cursor} {bytes : Bytes} :
    c.take count = .ok (bytes, c') ↔
      count ≤ c.remaining.length ∧ bytes = c.remaining.take count ∧
        c' = { c with position := c.position + count } := by
  unfold take
  split
  · simp_all [eq_comm]
  · simp only [reduceCtorEq, false_iff]
    exact fun h => absurd h.1 ‹_›

/-- A read ends within the data. -/
theorem position_le_of_take {count : Nat} {c c' : Cursor} {bytes : Bytes}
    (hc : c.position ≤ c.data.length) (h : c.take count = .ok (bytes, c')) :
    c'.position ≤ c'.data.length := by
  obtain ⟨hcount, -, rfl⟩ := take_eq_ok_iff.1 h
  simp only [remaining, List.length_drop] at hcount
  simp only
  omega

end Cursor

end Raster
