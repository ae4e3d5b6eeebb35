import ScreenCapture.Capture.Error
import ScreenCapture.Compositor.Basic
import ScreenCapture.Display.Info

namespace ScreenCapture

/-- Geometry and timing of a panel; the quarter turns beyond a whole turn do not count. -/
def DisplayInfo.ofPanel (p : Panel) : DisplayInfo :=
  { width := p.width, height := p.height
    orientation := (Orientation.ofQuarterTurns? (p.orientation.toNat % 4)).getD .rotation0
    fps := p.fps, density := p.density, xdpi := p.xdpi, ydpi := p.ydpi, secure := p.secure
    size := diagonal p.width p.height p.xdpi p.ydpi }

/-- Asks the compositor about a built-in display. A lost connection is told from a display that is
not there. -/
def Compositor.probe (c : Compositor) (id : Int32) : Except CaptureError DisplayInfo × Compositor :=
  match c.panel id with
  | (.ok p, c) => (.ok (.ofPanel p), c)
  | (.error status, c) =>
    if status.isConnectionFailure then (.error (.serviceUnavailable status.name), c)
    else (.error (.displayNotFound id), c)

end ScreenCapture
