import ScreenCapture.Display.Info
import ScreenCapture.Json.Record
import ScreenCapture.Json.Write

namespace ScreenCapture

namespace Orientation

/-- A number of quarter turns. -/
def readJson : JsonReader Orientation :=
  Json.readChecked Json.readUInt8 fun turns =>
    match ofQuarterTurns turns.toNat with
    | .ok o => .ok o
    | .error e => .error e.message

def toJson (o : Orientation) : JsonScalar := .integer o.quarterTurns

end Orientation

namespace DisplayInfo

/-- The fields of a display that are known so far. -/
structure Draft where
  width : Option UInt32
  height : Option UInt32
  orientation : Option Orientation
  fps : Option Float32
  density : Option Float32
  xdpi : Option Float32
  ydpi : Option Float32
  secure : Option Bool
  size : Option Float32

namespace Draft

def fields : List (Json.Field Draft) :=
  [.of "width" width (fun d v => { d with width := some v }) Json.readUInt32,
    .of "height" height (fun d v => { d with height := some v }) Json.readUInt32,
    .of "orientation" orientation (fun d v => { d with orientation := some v })
      Orientation.readJson,
    .of "fps" fps (fun d v => { d with fps := some v }) Json.readFloat32,
    .of "density" density (fun d v => { d with density := some v }) Json.readFloat32,
    .of "xdpi" xdpi (fun d v => { d with xdpi := some v }) Json.readFloat32,
    .of "ydpi" ydpi (fun d v => { d with ydpi := some v }) Json.readFloat32,
    .of "secure" secure (fun d v => { d with secure := some v }) Json.readBool,
    .of "size" size (fun d v => { d with size := some v }) Json.readFloat32]

def finish (d : Draft) : Except JsonError DisplayInfo := do
  let width ← Json.required "width" d.width
  let height ← Json.required "height" d.height
  let orientation ← Json.required "orientation" d.orientation
  let fps ← Json.required "fps" d.fps
  let density ← Json.required "density" d.density
  let xdpi ← Json.required "xdpi" d.xdpi
  let ydpi ← Json.required "ydpi" d.ydpi
  let secure ← Json.required "secure" d.secure
  let size ← Json.required "size" d.size
  .ok { width, height, orientation, fps, density, xdpi, ydpi, secure, size }

end Draft

def jsonFormat : Json.RecordFormat Draft DisplayInfo where
  name := "DisplayInfo"
  fields := Draft.fields
  optional := false
  start := ⟨none, none, none, none, none, none, none, none, none⟩
  finish := Draft.finish

end DisplayInfo

end ScreenCapture
