import ScreenCapture.Geometry.Rect
import ScreenCapture.Orientation

namespace ScreenCapture

/-- The rounding arithmetic in which positions are scaled. -/
structure Arithmetic (R : Type) where
  ofPixels : UInt32 → R
  half : R
  one : R
  add : R → R → R
  sub : R → R → R
  mul : R → R → R
  div : R → R → R
  toPixels : R → UInt32

/-- Single precision, rounding to nearest, truncating and saturating on the way back. -/
@[inline] def Arithmetic.single : Arithmetic Float32 where
  ofPixels := UInt32.toFloat32
  half := 0.5
  one := 1
  add := Float32.add
  sub := Float32.sub
  mul := Float32.mul
  div := Float32.div
  toPixels := Float32.toUInt32

/-- How a layer stack is placed on an output: turned clockwise, then scaled into `visible`. -/
structure Projection where
  orientation : Orientation
  layerStack : Rect
  visible : Rect
  deriving DecidableEq

namespace Projection

variable {R : Type}

/-- Position of the centre of a pixel, as a fraction of the side it lies on. -/
@[inline] def centre (A : Arithmetic R) (offset extent : UInt32) : R :=
  A.div (A.add (A.ofPixels offset) A.half) (A.ofPixels extent)

/-- Turns a position on the output back to the layer stack. -/
@[inline] def unturn (A : Arithmetic R) : Orientation → R → R → R × R
  | .rotation0, u, v => (u, v)
  | .rotation90, u, v => (v, A.sub A.one u)
  | .rotation180, u, v => (A.sub A.one u, A.sub A.one v)
  | .rotation270, u, v => (A.sub A.one v, u)

/-- Pixel at a fraction of a side, at most the last one. -/
@[inline] def pixelAt (A : Arithmetic R) (position : R) (extent : UInt32) : UInt32 :=
  min (A.toPixels (A.mul position (A.ofPixels extent))) (extent - 1)

/-- Layer-stack pixel shown at an output pixel, none outside the visible rectangle. -/
@[inline] def layerPoint? (A : Arithmetic R) (p : Projection) (x y : UInt32) :
    Option (UInt32 × UInt32) :=
  if p.layerStack.isEmpty || !p.visible.contains x y then none
  else
    let u := centre A (x - p.visible.x) p.visible.width
    let v := centre A (y - p.visible.y) p.visible.height
    let n := unturn A p.orientation u v
    some (p.layerStack.x + pixelAt A n.1 p.layerStack.width,
      p.layerStack.y + pixelAt A n.2 p.layerStack.height)

/-- The layer point in single precision. -/
def layerPixel? (p : Projection) (x y : UInt32) : Option (UInt32 × UInt32) :=
  p.layerPoint? .single x y

end Projection

end ScreenCapture
