import ScreenCapture.Capture.FrameHolder
import ScreenCapture.Compositor.Displays

namespace ScreenCapture

/-- Geometry of a virtual display: the size of its output, and the layer stack that it shows. -/
structure OutputParams where
  desiredWidth : UInt32
  desiredHeight : UInt32
  orientation : Orientation
  realWidth : UInt32
  realHeight : UInt32
  deriving DecidableEq, Inhabited

namespace OutputParams

def hasZeroSide (p : OutputParams) : Bool :=
  p.desiredWidth = 0 || p.desiredHeight = 0 || p.realWidth = 0 || p.realHeight = 0

/-- The whole layer stack onto the whole output. -/
def projection (p : OutputParams) : Projection :=
  { orientation := p.orientation, layerStack := .ofSize p.realWidth p.realHeight,
    visible := .ofSize p.desiredWidth p.desiredHeight }

end OutputParams

/-- Everything that stands behind a running virtual display. -/
structure VirtualOutput where
  display : DisplayToken
  queue : QueueId
  waiter : WaiterId
  holder : FrameHolder
  params : OutputParams
  deriving DecidableEq

namespace VirtualOutput

def pixelFormat : FormatCode := .rgba8888

/-- Turns the failure of a call into the failure of a step of the set-up. -/
def failed (step : SetupStep) (status : Status) : CaptureError :=
  .setupFailed step status.name

/-- Makes a new queue synchronous, and gives it size and format. -/
def configure (c : Compositor) (queue : QueueId) (p : OutputParams) :
    Except Status Unit × Compositor :=
  match c.disableAsync queue with
  | (.error status, c) => (.error status, c)
  | (.ok (), c) =>
    match c.setSize queue p.desiredWidth p.desiredHeight with
    | (.error status, c) => (.error status, c)
    | (.ok (), c) => c.setFormat queue pixelFormat

/-- Sets up a display that renders into a queue, or leaves nothing behind. -/
def publish (c : Compositor) (queue : QueueId) (p : OutputParams) :
    Except CaptureError DisplayToken × Compositor :=
  match c.newDisplay with
  | (.error status, c) => (.error (failed .newDisplay status), c)
  | (.ok token, c) =>
    match c.applyTransaction token queue p.projection with
    | (.error status, c) => (.error (failed .publication status), c.destroyDisplay token)
    | (.ok (), c) => (.ok token, c)

/-- Sets up the reader of a queue, the waiter that it tells, and the display. -/
def attach (c : Compositor) (queue : QueueId) (p : OutputParams) :
    Except CaptureError VirtualOutput × Compositor :=
  match c.newReader queue 1 with
  | (.error status, c) => (.error (failed .newReader status), c)
  | (.ok (), c) =>
    let (waiter, c) := c.newWaiter
    match publish (c.listen queue waiter) queue p with
    | (.error e, c) => (.error e, c.dropWaiter waiter)
    | (.ok display, c) => (.ok { display, queue, waiter, holder := .empty, params := p }, c)

/-- Sets up a queue and everything that depends on it, or leaves nothing behind. -/
def onNewQueue (c : Compositor) (p : OutputParams) :
    Except CaptureError VirtualOutput × Compositor :=
  match c.newQueue with
  | (.error status, c) => (.error (failed .newQueue status), c)
  | (.ok queue, c) =>
    match configure c queue p with
    | (.error status, c) => (.error (failed .queueSettings status), c.dropQueue queue)
    | (.ok (), c) =>
      match attach c queue p with
      | (.error e, c) => (.error e, c.dropQueue queue)
      | (.ok output, c) => (.ok output, c)

/-- Sets up a virtual display, all of it or nothing. -/
def build (c : Compositor) (p : OutputParams) : Except CaptureError VirtualOutput × Compositor :=
  if p.hasZeroSide then (.error (failed .geometry .badValue), c)
  else
    match c.connect with
    | (.error status, c) => (.error (.serviceUnavailable status.name), c)
    | (.ok (), c) => onNewQueue c p

/-- Tears a virtual display down: its buffer is given back, the display is removed, and then its
queue is released. -/
def tearDown (c : Compositor) (o : VirtualOutput) : Compositor :=
  let (_, _, c) := o.holder.unlock (Compositor.source o.queue) c
  let c := (c.destroyDisplay o.display).disconnect o.queue
  (c.dropQueue o.queue).dropWaiter o.waiter

end VirtualOutput

/-- Keeps at most one virtual display. -/
structure OutputManager where
  output : Option VirtualOutput
  deriving DecidableEq, Inhabited

namespace OutputManager

def empty : OutputManager := ⟨none⟩

def isRunning (m : OutputManager) : Bool := m.output.isSome

/-- Tears the running display down, if there is one. -/
def destroy (m : OutputManager) (c : Compositor) : OutputManager × Compositor :=
  match m.output with
  | none => (m, c)
  | some o => (⟨none⟩, o.tearDown c)

/-- Replaces what runs by a new display; when that fails, nothing runs. -/
def create (m : OutputManager) (c : Compositor) (p : OutputParams) :
    Except CaptureError Unit × OutputManager × Compositor :=
  let (m, c) := m.destroy c
  match VirtualOutput.build c p with
  | (.error e, c) => (.error e, m, c)
  | (.ok o, c) => (.ok (), ⟨some o⟩, c)

/-- Replaces what runs by a display with other geometry. -/
def reconfigure (m : OutputManager) (c : Compositor) (p : OutputParams) :
    Except CaptureError Unit × OutputManager × Compositor :=
  let (m, c) := m.destroy c
  m.create c p

/-- Locks the next frame of the running display. -/
def lockNext (m : OutputManager) (c : Compositor) :
    Option (Except CaptureError LockedBuffer × OutputManager × Compositor) :=
  m.output.map fun o =>
    let (r, holder, c) := o.holder.lockNext (Compositor.source o.queue) c
    (r, ⟨some { o with holder }⟩, c)

/-- Gives the held buffer of the running display back. -/
def unlock (m : OutputManager) (c : Compositor) : Option (Bool × OutputManager × Compositor) :=
  m.output.map fun o =>
    let (r, holder, c) := o.holder.unlock (Compositor.source o.queue) c
    (r, ⟨some { o with holder }⟩, c)

/-- The frame in the held buffer. -/
def frame? (m : OutputManager) (c : Compositor) : Option Frame :=
  m.output.bind fun o => o.holder.frame? (Compositor.source o.queue) c

def isHolding (m : OutputManager) : Bool := m.output.any (·.holder.isHolding)

end OutputManager

end ScreenCapture
