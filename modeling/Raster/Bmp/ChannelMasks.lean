import Raster.Bmp.Mask
import Raster.Text.Layout

/-!
# The masks of the color channels

Pixels of 16 and 32 bits hold their channels where four masks say.  The mask of an absent channel
is empty.
-/

namespace Raster.Bmp

/-- A color channel. -/
inductive Channel where
  | red
  | green
  | blue
  | alpha
deriving DecidableEq

/-- The channels, in the order in which their masks are stored. -/
def Channel.all : List Channel := [.red, .green, .blue, .alpha]

/-- The name of a channel. -/
def Channel.name : Channel → String
  | .red => "red"
  | .green => "green"
  | .blue => "blue"
  | .alpha => "alpha"

/-- One mask for each channel. -/
structure ChannelMasks where
  red : Mask
  green : Mask
  blue : Mask
  /-- Empty if the pixels have no alpha channel. -/
  alpha : Mask
deriving DecidableEq

namespace ChannelMasks

/-- The mask of a channel. -/
def get (masks : ChannelMasks) : Channel → Mask
  | .red => masks.red
  | .green => masks.green
  | .blue => masks.blue
  | .alpha => masks.alpha

/-- The masks of pixels without channels of their own. -/
def empty : ChannelMasks := ⟨0, 0, 0, 0⟩

/-- The masks of pixels of a given number of bits when a file does not store any: five bits a
channel in 16 bits, eight bits a channel in 32 bits, and no alpha channel. -/
def standard : Nat → ChannelMasks
  | 16 => ⟨0x7c00, 0x03e0, 0x001f, 0⟩
  | 32 => ⟨0x00ff0000, 0x0000ff00, 0x000000ff, 0⟩
  | _ => empty

/-- The first channel whose mask is at fault over pixels of `bits` bits. -/
def fault? (masks : ChannelMasks) (bits : Nat) : Option (Channel × Mask.Fault) :=
  Channel.all.findSome? fun c => ((masks.get c).fault? bits).map (c, ·)

/-- The masks are displayed as a record. -/
def layout (masks : ChannelMasks) : Layout :=
  .record "ChannelMasks" (Channel.all.map fun c => (c.name, .atom (masks.get c).text)) false

end ChannelMasks

end Raster.Bmp
