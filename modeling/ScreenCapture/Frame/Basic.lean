import ScreenCapture.Frame.Header
import ScreenCapture.Geometry.Pattern

namespace ScreenCapture

/-- A captured frame. Its data is computed when it is first looked at. -/
structure Frame where
  data : Thunk Bytes
  format : PixelFormat
  width : UInt32
  height : UInt32
  stride : UInt32
  bytesPerPixel : UInt8
  size : UInt32
  number : Nat
  timestamp : Int

namespace Frame

/-- Description of the layout for the wire. -/
def header (f : Frame) : FrameHeader :=
  { format := f.format, width := f.width, height := f.height, stride := f.stride,
    bpp := f.bytesPerPixel, size := f.size }

/-- Bytes from the start of one row to the start of the next. -/
def rowPitch (f : Frame) : Nat := f.stride.toNat * f.bytesPerPixel.toNat

/-- Cuts `count` rows off data, each `pitch` bytes long and shortened to `length`, until it ends. -/
def cutRows (pitch length : Nat) : Nat → Nat → Bytes → List Bytes
  | 0, _, _ => []
  | count + 1, start, data =>
    if start < data.size then
      data.extract start (min (start + min length pitch) data.size) ::
        cutRows pitch length count (start + pitch) data
    else []

/-- Pixel rows without the padding at their ends, none when a row takes no bytes. -/
def rows (f : Frame) : List Bytes :=
  if f.rowPitch = 0 then []
  else cutRows f.rowPitch (f.width.toNat * f.bytesPerPixel.toNat) f.height.toNat 0 f.data.get

def text (f : Frame) : String :=
  let number := f.number
  let width := f.width
  let height := f.height
  let stride := f.stride
  let format := f.format.name
  let size := f.size
  s!"Frame#{number}({width}x{height} stride={stride} {format}, {size} bytes)"

end Frame

end ScreenCapture
