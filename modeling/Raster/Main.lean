import Raster.Conversion

/-!
# The command line

Carries out a conversion on the files of the system.  A failure is reported on the standard error
stream and by the exit code.  The arguments come as texts here.
-/

namespace Raster.CommandLine

open Conversion (Failure)

/-- The text and the number that the system gives to a failed operation. -/
def systemText : IO.Error → String
  | .noFileOrDirectory .. => FileTree.Fault.notFound.message
  | .inappropriateType _ code text | .permissionDenied _ code text
  | .alreadyExists _ code text | .resourceExhausted _ code text | .invalidArgument _ code text
  | .noSuchThing _ code text => s!"{text} (os error {code})"
  | other => toString other

/-- Carries out an operation; its failure becomes one of the conversion. -/
def attempt {α : Type} (operation : IO α) : ExceptT Failure IO α := do
  match ← operation.toBaseIO with
  | .ok a => return a
  | .error e => throw (.system (systemText e))

/-- Access to the files of the system. -/
def systemAccess : Conversion.FileAccess IO where
  read path := attempt do
    let data ← IO.FS.withFile path .read (·.readBinToEnd)
    return data.toList
  write path data := attempt (IO.FS.writeBinFile path ⟨data.toArray⟩)

end Raster.CommandLine

/-- Converts a PNG file to a bitmap file. -/
def main (arguments : List String) : IO UInt32 := do
  let files := Raster.CommandLine.systemAccess
  let result ← (Raster.Conversion.steps files Raster.Png.reader arguments).run
  let report := Raster.Conversion.report result
  IO.eprint report.complaint
  return report.exitCode
