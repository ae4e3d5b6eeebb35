import ScreenCapture.Config.Mirroring
import ScreenCapture.Json.Record
import ScreenCapture.Json.Write

namespace ScreenCapture

/-- Settings of a capture. -/
structure CaptureConfig where
  displayId : Int32
  /-- Unset, the display is shown as it is. -/
  projection : Option Mirroring
  /-- Number of frames after which the capture ends. -/
  frameLimit : UInt64
  /-- Bound on the wait for each frame, in milliseconds; unset, there is none. -/
  waitTimeoutMs : Option UInt64
  /-- Frames that the compositor renders per second. -/
  simulatedFps : UInt32
  deriving DecidableEq

namespace CaptureConfig

def standard : CaptureConfig :=
  { displayId := 0, projection := none, frameLimit := 100, waitTimeoutMs := none,
    simulatedFps := 60 }

/-- The settings that a text has given so far. -/
structure Draft where
  displayId : Option Int32
  projection : Option (Option Mirroring)
  frameLimit : Option UInt64
  waitTimeoutMs : Option (Option UInt64)
  simulatedFps : Option UInt32

def readProjection : JsonReader Mirroring :=
  Json.readChecked Json.readString fun s =>
    match Mirroring.parse s with
    | .ok p => .ok p
    | .error e => .error e.message

namespace Draft

def fields : List (Json.Field Draft) :=
  [.of "display_id" displayId (fun d v => { d with displayId := some v }) Json.readInt32,
    .of "projection" projection (fun d v => { d with projection := some v })
      (Json.readOption readProjection),
    .of "frame_limit" frameLimit (fun d v => { d with frameLimit := some v }) Json.readUInt64,
    .of "wait_timeout_ms" waitTimeoutMs (fun d v => { d with waitTimeoutMs := some v })
      (Json.readOption Json.readUInt64),
    .of "simulated_fps" simulatedFps (fun d v => { d with simulatedFps := some v }) Json.readUInt32]

/-- What is not given keeps its standard value. -/
def finish (d : Draft) : CaptureConfig :=
  { displayId := d.displayId.getD standard.displayId
    projection := d.projection.getD standard.projection
    frameLimit := d.frameLimit.getD standard.frameLimit
    waitTimeoutMs := d.waitTimeoutMs.getD standard.waitTimeoutMs
    simulatedFps := d.simulatedFps.getD standard.simulatedFps }

end Draft

def jsonFormat : Json.RecordFormat Draft CaptureConfig where
  name := "CaptureConfig"
  fields := Draft.fields
  optional := true
  start := ⟨none, none, none, none, none⟩
  finish d := .ok d.finish

/-- Reads settings from a JSON text. -/
def ofJson (text : String) : Except ConfigError CaptureConfig :=
  match Json.readDocument jsonFormat.read text with
  | .ok c => .ok c
  | .error e => .error (.json e)

def toJson (c : CaptureConfig) : List (String × JsonScalar) :=
  [("display_id", .integer c.displayId.toInt),
    ("projection", match c.projection with
      | some p => .string p.text
      | none => .null),
    ("frame_limit", .integer c.frameLimit.toNat),
    ("wait_timeout_ms", match c.waitTimeoutMs with
      | some ms => .integer ms.toNat
      | none => .null),
    ("simulated_fps", .integer c.simulatedFps.toNat)]

/-- Reads settings from the contents of a file. -/
def ofFile (path : String) (contents : Except ReadFailure String) :
    Except ConfigError CaptureConfig :=
  match contents with
  | .error failure => .error (.unreadable path failure)
  | .ok text => ofJson text

/-- The projection to use for a display. -/
def mirroringFor (c : CaptureConfig) (info : DisplayInfo) : Mirroring :=
  c.projection.getD (.ofDisplay info)

/-- Bound on a wait, in nanoseconds. -/
def waitTimeout (c : CaptureConfig) : Option Nat :=
  c.waitTimeoutMs.map fun ms => ms.toNat * 1000000

end CaptureConfig

end ScreenCapture
