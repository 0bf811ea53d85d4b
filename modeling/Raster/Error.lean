import Raster.Bmp.ChannelMasks
import Raster.Bmp.Compression
import Raster.FileTree.Fault
import Raster.Text.Escaped
import Raster.Text.Hex

/-!
# Errors

Every way in which reading, decoding, encoding or displaying a bitmap fails is a constructor of
`Error`, with the values its message names.  `Error.kind` sorts the errors into six kinds,
`Error.message` words them for a user, and `Error.display` is the form for a reader who
inspects a value.
-/

namespace Raster

open Bmp (Channel ChannelMasks Compression Mask)

/-- A coarse classification of errors. -/
inductive Error.Kind where
  /-- The file could not be read. -/
  | io
  /-- The data does not start with the signature of a bitmap file. -/
  | notBitmap
  /-- The data ends before the sizes that its headers declare. -/
  | truncated
  /-- The headers hold inconsistent or invalid values. -/
  | malformed
  /-- The file uses a feature that is not supported, or exceeds a limit. -/
  | unsupported
  /-- The surface does not accept a bitmap. -/
  | invalidSurface
deriving DecidableEq

/-- The name of a kind. -/
def Error.Kind.name : Error.Kind → String
  | io => "Io"
  | notBitmap => "NotBitmap"
  | truncated => "Truncated"
  | malformed => "Malformed"
  | unsupported => "Unsupported"
  | invalidSurface => "InvalidSurface"

/-- Why an operation failed. -/
inductive Error where
  /-- The file at a path could not be read. -/
  | unreadable (path : String) (fault : FileTree.Fault)
  /-- The first two bytes are not the signature. -/
  | missingSignature (found : List UInt8)
  /-- A header, the masks or the color table end beyond the data. -/
  | endOfData
  /-- The file header declares more bytes than there are. -/
  | missingBytes (declared present : Nat)
  /-- The info header is of the oldest kind. -/
  | coreHeader
  /-- No info header has this size. -/
  | invalidHeaderSize (size : Nat)
  /-- The width is not positive. -/
  | invalidWidth (width : Int)
  /-- The height is zero. -/
  | invalidHeight (height : Int)
  /-- There is not exactly one plane. -/
  | invalidPlanes (count : Nat)
  /-- Pixels of this many bits are not supported. -/
  | unsupportedDepth (bits : Nat)
  /-- The compression scheme is not supported at this depth. -/
  | unsupportedCompression (scheme : Compression) (bits : Nat)
  /-- The mask of a channel is at fault. -/
  | invalidMask (channel : Channel) (mask : Mask) (bits : Nat) (fault : Mask.Fault)
  /-- The color table has more entries than there are indices. -/
  | tooManyColors (entries largest bits : Nat)
  /-- The pixel array starts before the headers end. -/
  | overlappingHeaders (offset headersEnd : Nat)
  /-- The pixel array ends beyond the data. -/
  | missingPixels (length offset present : Nat)
  /-- A pixel has an index that the color table does not have. -/
  | indexOutOfRange (index entries : Nat)
  /-- A bitmap must not be empty. -/
  | invalidDimensions (width height : Nat)
  /-- The pixel data of a bitmap has the wrong length. -/
  | wrongPixelCount (width height expected present : Nat)
  /-- The bitmap is larger than the loader accepts. -/
  | dimensionLimit (width height maxWidth maxHeight : Nat)
  /-- The file is larger than the loader accepts. -/
  | sizeLimit (size limit : Nat)
  /-- A header field cannot hold the size of the encoded bitmap. -/
  | tooLarge (width height : Nat)
  /-- The surface says that it is not valid. -/
  | surfaceNotValid
  /-- The canvas has been released. -/
  | canvasReleased
deriving DecidableEq

namespace Error

/-- The kind of an error. -/
def kind : Error → Kind
  | unreadable .. => .io
  | missingSignature .. => .notBitmap
  | endOfData | missingBytes .. | missingPixels .. => .truncated
  | invalidHeaderSize .. | invalidWidth .. | invalidHeight .. | invalidPlanes .. | invalidMask ..
  | tooManyColors .. | overlappingHeaders .. | indexOutOfRange .. | invalidDimensions ..
  | wrongPixelCount .. => .malformed
  | coreHeader | unsupportedDepth .. | unsupportedCompression .. | dimensionLimit ..
  | sizeLimit .. | tooLarge .. => .unsupported
  | surfaceNotValid | canvasReleased => .invalidSurface

/-- What could not be read, for an error of kind `io`. -/
def unreadableText (path : String) : String := s!"failed to read '{path}'"

/-- The message of an error. -/
def message : Error → String
  | unreadable path fault => s!"{unreadableText path}: {fault.message}"
  | missingSignature found => s!"missing `BM` signature (found \"{Escaped.ofBytes found}\")"
  | endOfData => "reached end of data while decoding bitmap"
  | missingBytes declared present =>
    s!"file header declares {declared} bytes, but only {present} are present"
  | coreHeader => "OS/2 core headers are not supported"
  | invalidHeaderSize size => s!"invalid info header size {size}"
  | invalidWidth w => s!"invalid image width {w}"
  | invalidHeight h => s!"invalid image height {h}"
  | invalidPlanes count => s!"invalid plane count {count} (must be 1)"
  | unsupportedDepth bits => s!"{bits} bits per pixel are not supported"
  | unsupportedCompression scheme bits =>
    s!"compression {scheme.layout.flat} is not supported at {bits} bits per pixel"
  | invalidMask channel mask bits .tooWide =>
    s!"{channel.name} channel mask {mask.text} exceeds {bits} bits per pixel"
  | invalidMask channel mask _ .broken =>
    s!"{channel.name} channel mask {mask.text} is not contiguous"
  | tooManyColors entries largest bits =>
    s!"color table with {entries} entries exceeds the {largest} colors allowed at {bits} "
      ++ "bits per pixel"
  | overlappingHeaders offset headersEnd =>
    s!"pixel data offset {offset} overlaps the headers, which end at {headersEnd}"
  | missingPixels length offset present =>
    s!"pixel array needs {length} bytes at offset {offset}, but the data is only {present} "
      ++ "bytes long"
  | indexOutOfRange index entries =>
    s!"color index {index} is out of range for a table with {entries} entries"
  | invalidDimensions w h => s!"invalid bitmap dimensions {w}x{h}"
  | wrongPixelCount w h expected present =>
    s!"{w}x{h} bitmap needs {expected} bytes of RGBA data, got {present}"
  | dimensionLimit w h maxWidth maxHeight =>
    s!"{w}x{h} bitmap exceeds the configured limit of {maxWidth}x{maxHeight}"
  | sizeLimit size limit => s!"file of {size} bytes exceeds the configured limit of {limit} bytes"
  | tooLarge w h => s!"{w}x{h} bitmap is too large to encode"
  | surfaceNotValid => "surface is not valid"
  | canvasReleased => "canvas has been released"

/-- The fault of the file system behind an error. -/
def cause? : Error → Option FileTree.Fault
  | unreadable _ fault => some fault
  | _ => none

/-- The display of an error: its kind and message, or what could not be read and the fault. -/
def display : Error → String
  | unreadable path fault => s!"{unreadableText path}: {fault.display}"
  | e => s!"{e.kind.name}: {e.message}"

end Error

end Raster
