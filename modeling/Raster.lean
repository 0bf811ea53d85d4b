import Raster.Bytes.LittleEndian
import Raster.Bytes.Pieces
import Raster.Bytes.Cursor
import Raster.Text.Hex
import Raster.Text.Escaped
import Raster.Text.Layout
import Raster.Bitmap
import Raster.Bmp.FileHeader
import Raster.Bmp.InfoHeader
import Raster.Bmp.ColorTable
import Raster.Bmp.Depth
import Raster.Bmp.Reading
import Raster.Bmp.Colors
import Raster.Bmp.PixelFormat
import Raster.Session
import Raster.Main
import Raster.Proofs.Format
import Raster.Proofs.Masks
import Raster.Proofs.Verdict
import Raster.Proofs.Reading
import Raster.Proofs.Grammar
import Raster.Proofs.Blocks
import Raster.Proofs.Rows
import Raster.Proofs.Bits
import Raster.Proofs.Pixels
import Raster.Proofs.Colors
import Raster.Proofs.RoundTrip
import Raster.Proofs.Written
import Raster.Proofs.Machine
import Raster.Proofs.GuardedReading
import Raster.Proofs.GuardedPicture
import Raster.Proofs.Fields
import Raster.Proofs.Prefixes
import Raster.Proofs.Truncation
import Raster.Proofs.Unused
import Raster.Proofs.Loading
import Raster.Proofs.Canvases
import Raster.Proofs.Agreement
import Raster.Proofs.Dictionaries
import Raster.Proofs.Counts
import Raster.Proofs.Sessions
import Raster.Proofs.Ledger
import Raster.Proofs.Resaving
import Raster.Proofs.TornWrites
import Raster.Proofs.Rejections
import Raster.Proofs.Notices
import Raster.Proofs.Files
import Raster.Proofs.Limits
import Raster.Proofs.Saving
import Raster.Proofs.Independence
import Raster.Proofs.PixelArray
import Raster.Proofs.Sizes
import Raster.Proofs.Indices
import Raster.Proofs.Levels
import Raster.Proofs.MaskChecks
import Raster.Proofs.Overwriting
import Raster.Proofs.RowOrder
import Raster.Proofs.MaskRoutes
import Raster.Proofs.Converting
import Raster.Proofs.Addressing
import Raster.Proofs.CursorRuns
import Raster.Proofs.HeaderFields
import Raster.Proofs.PngSamples
import Raster.Proofs.Obstacles
import Raster.Proofs.Starting
