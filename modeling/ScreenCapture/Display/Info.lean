import ScreenCapture.Orientation

namespace ScreenCapture

/-- Geometry and timing of a display. -/
structure DisplayInfo where
  width : UInt32
  height : UInt32
  orientation : Orientation
  fps : Float32
  density : Float32
  xdpi : Float32
  ydpi : Float32
  secure : Bool
  size : Float32

/-- Geometry alone, as capture settings need it. -/
def DisplayInfo.ofGeometry (width height : UInt32) (orientation : Orientation) : DisplayInfo :=
  { width, height, orientation, fps := 0, density := 0, xdpi := 0, ydpi := 0, secure := false,
    size := 0 }

instance : Inhabited DisplayInfo := ⟨.ofGeometry 0 0 .rotation0⟩

/-- Diagonal in inches, zero when a density is not positive and the size therefore unknown. -/
def diagonal (width height : UInt32) (xdpi ydpi : Float32) : Float32 :=
  if xdpi ≤ 0 || ydpi ≤ 0 then 0
  else
    let w := width.toFloat32 / xdpi
    let h := height.toFloat32 / ydpi
    (w * w + h * h).sqrt

end ScreenCapture
