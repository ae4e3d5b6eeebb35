import ScreenCapture.Geometry.Pattern
import ScreenCapture.Status

namespace ScreenCapture

/-- Draws into a buffer, which it gets zeroed. -/
abbrev Painter := Canvas → Bytes → Bytes

/-- Name of a waiter that is told about new frames. -/
abbrev WaiterId := Nat

/-- A finished frame that waits to be locked. -/
structure QueuedFrame where
  canvas : Canvas
  number : Nat
  data : Thunk Bytes

/-- A buffer queue with a single slot: one frame is drawn into it, queued, locked and given back
before the next, unless the oldest is dropped. -/
structure Queue where
  /-- Whether a producer waits for the reader; otherwise a new frame replaces the queued one. -/
  sync : Bool
  width : UInt32
  height : UInt32
  format : FormatCode
  queued : Option QueuedFrame
  locked : Bool
  /-- Whether a reader was ever created. -/
  hasReader : Bool
  listener : Option WaiterId
  abandoned : Bool
  nextFrame : Nat

namespace Queue

/-- A queue of single pixels that drops the oldest frame. -/
def fresh : Queue :=
  { sync := false, width := 1, height := 1, format := .rgba8888, queued := none, locked := false,
    hasReader := false, listener := none, abandoned := false, nextFrame := 0 }

/-- Lets producers wait for the reader from now on. -/
def disableAsync (q : Queue) : Except Status Queue :=
  if q.hasReader then .error .invalidOperation else .ok { q with sync := true }

def setSize (q : Queue) (width height : UInt32) : Except Status Queue :=
  if width = 0 ∨ height = 0 then .error .badValue else .ok { q with width, height }

/-- Only formats of four bytes per pixel are drawn. -/
def setFormat (q : Queue) (format : FormatCode) : Except Status Queue :=
  if format.bytesPerPixel ≠ 4 then .error .badValue else .ok { q with format }

/-- A queue has one reader at most, ever, and it locks one buffer at a time. -/
def attachReader (q : Queue) (maxLocked : Nat) : Except Status Queue :=
  if maxLocked ≠ 1 then .error .badValue
  else if q.hasReader then .error .alreadyExists
  else .ok { q with hasReader := true }

def listen (q : Queue) (waiter : WaiterId) : Queue := { q with listener := some waiter }

/-- Pixels from one row to the next: the width, rounded up to whole groups of 32. -/
def paddedWidth (width : UInt32) : UInt32 :=
  (width / 32 + if width % 32 = 0 then 0 else 1) * 32

/-- The buffer in which the next frame is drawn. -/
def canvas (q : Queue) : Canvas :=
  { width := q.width, height := q.height, stride := paddedWidth q.width, format := q.format }

/-- What a producer finds. -/
inductive Slot
  | free (canvas : Canvas)
  /-- The producer waits until a buffer is given back or the queue is abandoned. -/
  | busy
  | refused (status : Status)

def slot (q : Queue) : Slot :=
  if q.abandoned then .refused .deadObject
  else if q.sync && (q.locked || q.queued.isSome) then .busy
  else if q.format.bytesPerPixel = 0 then .refused .badValue
  else .free q.canvas

/-- A queued frame: its number, and who is to be told about it. -/
structure Commit where
  queue : Queue
  number : Nat
  announce : Option WaiterId

/-- Queues a drawn frame. One that replaces another is not announced again, so that no announcement
is left without a frame. -/
def commit (q : Queue) (canvas : Canvas) (data : Thunk Bytes) : Except Status Commit :=
  if q.abandoned then .error .deadObject
  else .ok
    { queue := { q with
        queued := some { canvas, number := q.nextFrame, data }, nextFrame := q.nextFrame + 1 }
      number := q.nextFrame
      announce := if q.queued.isSome then none else q.listener }

/-- Abandons the queue, and the frame that waits in it. -/
def disconnect (q : Queue) : Queue := { q with abandoned := true, queued := none }

/-- Takes the queued frame out, and marks the slot as locked. -/
def acquire? (q : Queue) : Option (QueuedFrame × Queue) :=
  q.queued.map fun frame => (frame, { q with queued := none, locked := true })

def freeSlot (q : Queue) : Queue := { q with locked := false }

def forgetListener (q : Queue) : Queue := { q with listener := none }

end Queue

end ScreenCapture
