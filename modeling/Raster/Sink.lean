import Raster.Bytes.LittleEndian
import Raster.Error

/-!
# Sinks of bounded size

A `Sink` keeps the bytes written to it while there is room.  A write that does not fit keeps the
bytes that do and reports the rest as lost.
-/

namespace Raster

/-- Why bytes could not be written. -/
inductive WriteFault where
  /-- The sink is full. -/
  | full
  /-- There are no bytes to write, because of an error. -/
  | invalidInput (error : Error)
deriving DecidableEq

namespace WriteFault

/-- The name of the kind of a fault. -/
def kindName : WriteFault → String
  | full => "WriteZero"
  | invalidInput _ => "InvalidInput"

/-- The message of a fault. -/
def message : WriteFault → String
  | full => "failed to write whole buffer"
  | invalidInput e => e.message

end WriteFault

/-- A place of bounded size to write to. -/
structure Sink where
  /-- The number of bytes that still fit. -/
  room : Nat
  /-- The bytes that have been written. -/
  written : Bytes
deriving DecidableEq

namespace Sink

/-- An empty sink for a number of bytes. -/
def ofCapacity (capacity : Nat) : Sink := ⟨capacity, []⟩

/-- The sink after some bytes have been written to it: those that fit are kept. -/
def write (s : Sink) (bytes : Bytes) : Except WriteFault Unit × Sink :=
  (if bytes.length ≤ s.room then .ok () else .error .full,
    ⟨s.room - bytes.length, s.written ++ bytes.take s.room⟩)

end Sink

end Raster
