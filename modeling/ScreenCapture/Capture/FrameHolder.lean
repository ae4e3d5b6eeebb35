import ScreenCapture.Capture.Error
import ScreenCapture.Frame.Locked

namespace ScreenCapture

/-- Holds at most one buffer of a source. -/
structure FrameHolder where
  held : Option LockedBuffer
  deriving DecidableEq, Inhabited

namespace FrameHolder

variable {σ : Type}

def empty : FrameHolder := ⟨none⟩

def isHolding (f : FrameHolder) : Bool := f.held.isSome

/-- Locks the next buffer. One that is too large to describe is given back at once; whether the
source takes it back makes no difference. -/
def lockNext (source : BufferSource σ) (f : FrameHolder) (s : σ) :
    Except CaptureError LockedBuffer × FrameHolder × σ :=
  if f.isHolding then (.error (.lockFailed Status.invalidOperation.name), f, s)
  else
    match source.lock s with
    | (.error status, s) => (.error (.lockFailed status.name), f, s)
    | (.ok buffer, s) =>
      match buffer.size? with
      | none => (.error (.lockFailed Status.badValue.name), f, (source.unlock buffer s).2)
      | some _ => (.ok buffer, ⟨some buffer⟩, s)

/-- Gives the held buffer back; `false` if there is none. -/
def unlock (source : BufferSource σ) (f : FrameHolder) (s : σ) : Bool × FrameHolder × σ :=
  match f.held with
  | none => (false, f, s)
  | some buffer => (true, ⟨none⟩, (source.unlock buffer s).2)

/-- View of the held buffer. -/
def frame? (source : BufferSource σ) (f : FrameHolder) (s : σ) : Option Frame :=
  f.held.bind fun buffer => buffer.frame? (source.data s)

end FrameHolder

end ScreenCapture
