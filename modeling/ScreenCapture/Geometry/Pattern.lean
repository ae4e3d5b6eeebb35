import ScreenCapture.Geometry.Projection
import ScreenCapture.PixelFormat

namespace ScreenCapture

/-- Pixel data, byte after byte. -/
abbrev Bytes := Array UInt8

/-- Red, green, blue and alpha of a pixel. -/
structure Color where
  red : UInt8
  green : UInt8
  blue : UInt8
  alpha : UInt8
  deriving DecidableEq

/-- A buffer to draw into: its rows lie `stride` pixels apart. -/
structure Canvas where
  width : UInt32
  height : UInt32
  stride : UInt32
  format : FormatCode
  deriving DecidableEq

namespace Canvas

def byteCount (c : Canvas) : Nat := c.stride.toNat * c.height.toNat * c.format.bytesPerPixel.toNat

/-- The zeroed buffer that a renderer is given. -/
def blank (c : Canvas) : Bytes := Array.replicate c.byteCount 0

end Canvas

/-- The largest value of a coordinate below `extent`, but not zero, since it is divided by. -/
def patternScale (extent : UInt32) : UInt32 := if extent ≤ 1 then 1 else extent - 1

/-- Colour of a coordinate of the layer stack, from 0 at one side to 255 at the other. -/
def patternShade (offset extent : UInt32) : UInt8 := (offset * 255 / patternScale extent).toUInt8

/-- Test pattern at an output pixel: red follows the layer stack to the right, green down. -/
def Projection.pattern (p : Projection) (x y : UInt32) : Option Color :=
  match p.layerPixel? x y with
  | none => none
  | some (lx, ly) =>
    some ⟨patternShade (lx - p.layerStack.x) p.layerStack.width,
      patternShade (ly - p.layerStack.y) p.layerStack.height, 0, 255⟩

/-- Writes the four bytes of a colour, in the order of the format. -/
def Color.write (color : Color) (format : FormatCode) (data : Bytes) (offset : Nat) : Bytes :=
  let (first, third) :=
    if format = FormatCode.bgra8888 then (color.blue, color.red) else (color.red, color.blue)
  (((data.setIfInBounds offset first).setIfInBounds (offset + 1) color.green).setIfInBounds
    (offset + 2) third).setIfInBounds (offset + 3) color.alpha

/-- Draws one pixel, unless it lies outside the visible rectangle. -/
def Projection.paintPixel (p : Projection) (c : Canvas) (y x : Nat) (data : Bytes) : Bytes :=
  match p.pattern (UInt32.ofNat x) (UInt32.ofNat y) with
  | none => data
  | some color => color.write c.format data ((y * c.stride.toNat + x) * 4)

/-- Draws the first `n` pixels of a row. -/
def Projection.paintRow (p : Projection) (c : Canvas) (y : Nat) (n : Nat) (data : Bytes) : Bytes :=
  n.fold (fun x _ data => p.paintPixel c y x data) data

/-- Draws the test pattern through the projection, row after row. -/
def Projection.paint (p : Projection) (c : Canvas) (data : Bytes) : Bytes :=
  c.height.toNat.fold (fun y _ data => p.paintRow c y c.width.toNat data) data

end ScreenCapture
