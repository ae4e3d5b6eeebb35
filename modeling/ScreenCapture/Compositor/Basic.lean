import ScreenCapture.Queue.Reader
import ScreenCapture.Registry
import ScreenCapture.Waiter

namespace ScreenCapture

/-- A built-in display, as the compositor describes it. -/
structure Panel where
  width : UInt32
  height : UInt32
  /-- Quarter turns. -/
  orientation : UInt8
  fps : Float32
  density : Float32
  xdpi : Float32
  ydpi : Float32
  secure : Bool

/-- Portrait panel of 1080 by 1920 pixels. -/
def Panel.standard : Panel :=
  { width := 1080, height := 1920, orientation := 0, fps := 60, density := 3, xdpi := 480,
    ydpi := 480, secure := true }

/-- Calls that can be made to fail once. -/
inductive FailPoint
  | connection | panel | newQueue | queueSize | newReader | newDisplay | transaction | lock
  deriving DecidableEq

abbrev QueueId := Nat

abbrev DisplayToken := Nat

/-- What happens to the resources of the compositor. -/
inductive Event
  | threadPoolStarted
  | queueCreated (id : QueueId)
  | queueReleased (id : QueueId)
  | displayCreated (token : DisplayToken)
  | transactionApplied (token : DisplayToken)
  | displayDestroyed (token : DisplayToken)
  deriving DecidableEq

def Event.text : Event → String
  | threadPoolStarted => "ThreadPoolStarted"
  | queueCreated id => s!"QueueCreated {id}"
  | queueReleased id => s!"QueueReleased {id}"
  | displayCreated token => s!"DisplayCreated {token}"
  | transactionApplied token => s!"TransactionApplied {token}"
  | displayDestroyed token => s!"DisplayDestroyed {token}"

/-- A queue and those who hold it. -/
structure Channel where
  queue : Queue
  reader : Option Reader
  producerHeld : Bool
  endpointHeld : Bool
  /-- A call to produce a frame that waits for the slot. -/
  waitingCall : Option Painter

/-- Where a renderer is between two of its sections. -/
inductive RenderPhase
  | waiting
  | painting (canvas : Canvas)
  | announcing (waiter : WaiterId)
  /-- Its surface is gone. -/
  | stopped
  deriving DecidableEq

/-- Draws the test pattern into a surface, frame after frame. -/
structure Renderer where
  surface : QueueId
  projection : Projection
  phase : RenderPhase
  deriving DecidableEq

structure VirtualDisplay where
  projection : Option Projection
  renderer : Option Renderer

/-- Compositor in software: built-in panels, buffer queues, and virtual displays that are rendered
into them. -/
structure Compositor where
  panels : Registry Int32 Panel
  /-- Nanoseconds between two rendered frames. -/
  interval : Nat
  channels : Registry QueueId Channel
  displays : Registry DisplayToken VirtualDisplay
  waiters : Registry WaiterId Waiter
  /-- Number of the next queue or display. -/
  nextId : Nat
  nextWaiter : WaiterId
  armed : FailPoint → Option Status
  poolStarted : Bool
  /-- Oldest first. -/
  events : List Event

namespace Compositor

/-- A compositor with the given panels, before anything happens. -/
def ofPanels (panels : Registry Int32 Panel) (interval : Nat) : Compositor :=
  { panels, interval, channels := .empty, displays := .empty, waiters := .empty, nextId := 1,
    nextWaiter := 0, armed := fun _ => none, poolStarted := false, events := [] }

def standardPanels : Registry Int32 Panel := Registry.empty.insert 0 .standard

/-- Nanoseconds between frames at a rate; rate zero renders as fast as it can. -/
def intervalOfRate (fps : Nat) : Nat := 1000000000 / fps

/-- Sixteen milliseconds. -/
def standardInterval : Nat := 16000000

def standard : Compositor := ofPanels standardPanels standardInterval

def liveQueues (c : Compositor) : Nat := c.channels.size

def liveDisplays (c : Compositor) : Nat := c.displays.size

def record (c : Compositor) (e : Event) : Compositor := { c with events := c.events ++ [e] }

/-- Makes the next call at a point fail. -/
def arm (c : Compositor) (point : FailPoint) (status : Status) : Compositor :=
  { c with armed := fun p => if p = point then some status else c.armed p }

def disarm (c : Compositor) (point : FailPoint) : Compositor :=
  { c with armed := fun p => if p = point then none else c.armed p }

/-- Makes a call, unless it is armed to fail; then it fails, that once, and does nothing else. -/
def guarded {α : Type} (c : Compositor) (point : FailPoint)
    (call : Compositor → Except Status α × Compositor) : Except Status α × Compositor :=
  match c.armed point with
  | some status => (.error status, c.disarm point)
  | none => call c

/-- Gives out the next number. -/
def takeId (c : Compositor) : Nat × Compositor := (c.nextId, { c with nextId := c.nextId + 1 })

def modifyChannel (c : Compositor) (id : QueueId) (f : Channel → Channel) : Compositor :=
  { c with channels := c.channels.modify id f }

def queue? (c : Compositor) (id : QueueId) : Option Queue := (c.channels.find? id).map (·.queue)

def setQueue (c : Compositor) (id : QueueId) (queue : Queue) : Compositor :=
  c.modifyChannel id fun channel => { channel with queue }

/-- Whether a virtual display shows the surface. -/
def isShown (c : Compositor) (id : QueueId) : Bool :=
  c.displays.entries.any fun (_, d) => d.renderer.any (·.surface = id)

/-- Whether someone still holds the queue. -/
def isHeld (c : Compositor) (id : QueueId) (channel : Channel) : Bool :=
  channel.producerHeld || channel.endpointHeld || channel.reader.isSome ||
    channel.waitingCall.isSome || c.isShown id

/-- Releases a queue that nobody holds any more. -/
def reap (c : Compositor) (id : QueueId) : Compositor :=
  match c.channels.find? id with
  | none => c
  | some channel =>
    if c.isHeld id channel then c
    else { c with channels := c.channels.erase id }.record (.queueReleased id)

/-- Starts the threads that serve calls; once is enough. -/
def startPool (c : Compositor) : Compositor :=
  if c.poolStarted then c else { c with poolStarted := true }.record .threadPoolStarted

/-- Checks that the compositor can be reached. -/
def connect (c : Compositor) : Except Status Unit × Compositor :=
  c.guarded .connection fun c => (.ok (), c)

/-- Describes a built-in display. -/
def panel (c : Compositor) (id : Int32) : Except Status Panel × Compositor :=
  c.guarded .panel fun c =>
    match c.panels.find? id with
    | some panel => (.ok panel, c)
    | none => (.error .nameNotFound, c)

/-- A new waiter, with nothing announced. -/
def newWaiter (c : Compositor) : WaiterId × Compositor :=
  (c.nextWaiter,
    { c with waiters := c.waiters.insert c.nextWaiter .idle, nextWaiter := c.nextWaiter + 1 })

def pending (c : Compositor) (waiter : WaiterId) : Nat :=
  ((c.waiters.find? waiter).map (·.pending)).getD 0

/-- Announces a frame to a waiter. -/
def notify (c : Compositor) (waiter : WaiterId) : Compositor :=
  { c with waiters := c.waiters.modify waiter Waiter.notify }

def dropWaiter (c : Compositor) (waiter : WaiterId) : Compositor :=
  { c with waiters := c.waiters.erase waiter }

/-- Consumes an announcement, if there is one. -/
def takeNotice? (c : Compositor) (waiter : WaiterId) : Option Compositor :=
  (c.waiters.find? waiter).bind fun w =>
    w.take?.map fun w => { c with waiters := c.waiters.modify waiter fun _ => w }

end Compositor

end ScreenCapture
