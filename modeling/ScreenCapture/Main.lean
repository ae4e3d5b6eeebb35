import ScreenCapture.CommandLine.Capture

namespace ScreenCapture

/-- Whether a code of the operating system, which comes with either sign, is the given one. -/
def isSystemCode (expected code : UInt32) : Bool := code = expected || code = -expected

/-- The cause of a failed read. -/
def ReadFailure.ofError (e : IO.Error) : ReadFailure :=
  match e with
  | .noFileOrDirectory .. => .notFound
  | .inappropriateType _ code _ => if isSystemCode 20 code then .notDirectory else .isDirectory
  | .invalidArgument _ code _ =>
    if isSystemCode 36 code then .nameTooLong else .system (toString e)
  | .permissionDenied .. => .permissionDenied
  | e => .system (toString e)

/-- Reads a file as text. -/
def readText (path : String) : IO (Except ReadFailure String) := do
  if path.contains '\x00' then return .error .nulInPath
  try
    let bytes ← IO.FS.readBinFile path
    match String.fromUTF8? bytes with
    | some s => return .ok s
    | none => return .error .notText
  catch e => return .error (.ofError e)

end ScreenCapture

/-- Captures frames of a display as the arguments say. -/
def main (arguments : List String) : IO UInt32 := do
  let outcome ← ScreenCapture.CommandLine.program ScreenCapture.readText arguments
  IO.print outcome.output
  outcome.log.forM IO.println
  outcome.errors.forM IO.eprintln
  return outcome.exitCode.toUInt32
