import ScreenCapture.Frame.Header
import ScreenCapture.Json.Record
import ScreenCapture.Json.Write

namespace ScreenCapture

def PixelFormat.readJson : JsonReader PixelFormat :=
  Json.readName (PixelFormat.all.map (·.name)) PixelFormat.ofName?

namespace FrameHeader

/-- The fields of a header that are known so far. -/
structure Draft where
  format : Option PixelFormat
  width : Option UInt32
  height : Option UInt32
  stride : Option UInt32
  bpp : Option UInt8
  size : Option UInt32

namespace Draft

def fields : List (Json.Field Draft) :=
  [.of "format" format (fun d v => { d with format := some v }) PixelFormat.readJson,
    .of "width" width (fun d v => { d with width := some v }) Json.readUInt32,
    .of "height" height (fun d v => { d with height := some v }) Json.readUInt32,
    .of "stride" stride (fun d v => { d with stride := some v }) Json.readUInt32,
    .of "bpp" bpp (fun d v => { d with bpp := some v }) Json.readUInt8,
    .of "size" size (fun d v => { d with size := some v }) Json.readUInt32]

def finish (d : Draft) : Except JsonError FrameHeader := do
  let format ← Json.required "format" d.format
  let width ← Json.required "width" d.width
  let height ← Json.required "height" d.height
  let stride ← Json.required "stride" d.stride
  let bpp ← Json.required "bpp" d.bpp
  let size ← Json.required "size" d.size
  .ok { format, width, height, stride, bpp, size }

end Draft

def jsonFormat : Json.RecordFormat Draft FrameHeader where
  name := "FrameHeader"
  fields := Draft.fields
  optional := false
  start := ⟨none, none, none, none, none, none⟩
  finish := Draft.finish

def toJson (h : FrameHeader) : List (String × JsonScalar) :=
  [("format", .string h.format.name), ("width", .integer h.width.toNat),
    ("height", .integer h.height.toNat), ("stride", .integer h.stride.toNat),
    ("bpp", .integer h.bpp.toNat), ("size", .integer h.size.toNat)]

end FrameHeader

end ScreenCapture
