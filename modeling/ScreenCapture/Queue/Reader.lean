import ScreenCapture.Frame.Locked
import ScreenCapture.Queue.Basic

namespace ScreenCapture

/-- The reading side of a queue, with the data of the buffer it has locked. -/
structure Reader where
  data : Option (Thunk Bytes)

namespace Reader

def fresh : Reader := ⟨none⟩

/-- Description of a queued frame. There is one slot, and no clock. -/
def describe (frame : QueuedFrame) : LockedBuffer :=
  { slot := 0, width := frame.canvas.width, height := frame.canvas.height,
    stride := frame.canvas.stride, format := frame.canvas.format, number := frame.number,
    timestamp := 0 }

def lock (r : Reader) (q : Queue) : Except Status (LockedBuffer × Reader × Queue) :=
  if r.data.isSome then .error .invalidOperation
  else
    match q.acquire? with
    | none => .error .notEnoughData
    | some (frame, q) => .ok (describe frame, ⟨some frame.data⟩, q)

/-- Data of the locked buffer, empty when nothing is locked. -/
def lockedData (r : Reader) : Thunk Bytes := r.data.getD (.pure #[])

/-- Gives the locked buffer back, whichever the caller names. -/
def unlock (r : Reader) (q : Queue) : Except Status (Reader × Queue) :=
  if r.data.isSome then .ok (fresh, q.freeSlot) else .error .badValue

/-- What the queue is like once the reader is gone. -/
def drop (r : Reader) (q : Queue) : Queue :=
  (if r.data.isSome then q.freeSlot else q).forgetListener

end Reader

end ScreenCapture
