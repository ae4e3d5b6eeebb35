import ScreenCapture.Capture.Probe
import ScreenCapture.Capture.VirtualOutput

namespace ScreenCapture

/-- What a capture has done so far. -/
structure CaptureStats where
  framesConsumed : Nat
  lockFailures : Nat
  reconfigurations : Nat
  deriving DecidableEq, Inhabited

/-- Captures the frames of one display through a virtual display. -/
structure Controller where
  displayId : Int32
  desired : Option DisplayInfo
  real : Option DisplayInfo
  manager : OutputManager
  framePending : Bool
  state : CaptureState
  stats : CaptureStats

namespace Controller

def new (displayId : Int32) : Controller :=
  { displayId, desired := none, real := none, manager := .empty, framePending := false,
    state := .idle, stats := ⟨0, 0, 0⟩ }

def isDisplayRunning (k : Controller) : Bool := k.manager.isRunning

def isBufferHeld (k : Controller) : Bool := k.manager.isHolding

def invalid (k : Controller) (operation : CaptureOperation) : CaptureError :=
  .invalidState operation k.state

/-- Idle no longer, once there is some geometry. -/
def leaveIdle (k : Controller) : Controller :=
  if k.state = .idle then { k with state := .configured } else k

/-- Sets size and orientation of the output, for the next time that changes are applied. -/
def setDesired (k : Controller) (info : DisplayInfo) : Except CaptureError Unit × Controller :=
  if k.state = .released then (.error (k.invalid .setDesired), k)
  else (.ok (), { k with desired := some info }.leaveIdle)

/-- Sets the size of the display that is captured, for the next time that changes are applied. -/
def setReal (k : Controller) (info : DisplayInfo) : Except CaptureError Unit × Controller :=
  if k.state = .released then (.error (k.invalid .setReal), k)
  else (.ok (), { k with real := some info }.leaveIdle)

/-- Sets the size of the display that is captured to what the compositor says about it. -/
def setRealProbed (k : Controller) (c : Compositor) :
    Except CaptureError Unit × Controller × Compositor :=
  match c.probe k.displayId with
  | (.error e, c) => (.error e, k, c)
  | (.ok info, c) =>
    let (r, k) := k.setReal info
    (r, k, c)

/-- Geometry that is not set has no size. -/
def params (k : Controller) : OutputParams :=
  let desired := k.desired.getD default
  let real := k.real.getD default
  { desiredWidth := desired.width, desiredHeight := desired.height,
    orientation := desired.orientation, realWidth := real.width, realHeight := real.height }

/-- Replaces the virtual display by one with the geometry as it is set now. When that fails, none
runs. -/
def apply (k : Controller) (c : Compositor) : Except CaptureError Unit × Controller × Compositor :=
  if k.state = .released then (.error (k.invalid .apply), k, c)
  else
    match k.manager.reconfigure c k.params with
    | (.error e, manager, c) =>
      (.error e, { k with manager, framePending := false, state := .configured }, c)
    | (.ok (), manager, c) =>
      let stats := { k.stats with reconfigurations := k.stats.reconfigurations + 1 }
      (.ok (), { k with manager, framePending := false, state := .awaitingFrame, stats }, c)

/-- Begins a wait: the consumed buffer is given back, so that the next frame can be drawn. There is
no waiter, and no need to wait, when an announced frame is still to be consumed. -/
def beginWait (k : Controller) (operation : CaptureOperation) (c : Compositor) :
    Except CaptureError (Option WaiterId) × Controller × Compositor :=
  if !k.state.isRunning then (.error (k.invalid operation), k, c)
  else if k.framePending then (.ok none, k, c)
  else
    let (manager, c) := match k.manager.unlock c with
      | none => (k.manager, c)
      | some (_, manager, c) => (manager, c)
    let k := { k with manager, state := .awaitingFrame }
    match manager.output with
    | none => (.error (k.invalid operation), k, c)
    | some o => (.ok (some o.waiter), k, c)

/-- Takes note of an announced frame. -/
def noteFrame (k : Controller) : Controller := { k with framePending := true, state := .frameReady }

/-- Waits for the next frame; `false` if none has arrived. -/
def waitAs (k : Controller) (operation : CaptureOperation) (arrives : Bool) (c : Compositor) :
    Except CaptureError Bool × Controller × Compositor :=
  match k.beginWait operation c with
  | (.error e, k, c) => (.error e, k, c)
  | (.ok none, k, c) => (.ok true, k, c)
  | (.ok (some waiter), k, c) =>
    match c.awaitNotice waiter arrives with
    | (true, c) => (.ok true, k.noteFrame, c)
    | (false, c) => (.ok false, k, c)

/-- Waits as long as it takes. -/
def waitForFrame (k : Controller) (c : Compositor) :
    Except CaptureError Bool × Controller × Compositor :=
  k.waitAs .wait true c

/-- Gives up when no frame arrives in time, and goes on waiting with the next call. -/
def waitForFrameTimeout (k : Controller) (arrives : Bool) (c : Compositor) :
    Except CaptureError Bool × Controller × Compositor :=
  k.waitAs .waitTimeout arrives c

/-- Locks the announced frame. After a failed lock the frame is still pending, and the call can be
made again. -/
def consume (k : Controller) (c : Compositor) :
    Except CaptureError Frame × Controller × Compositor :=
  if k.state ≠ .frameReady then (.error (k.invalid .consume), k, c)
  else
    match k.manager.lockNext c with
    | none => (.error (k.invalid .consume), k, c)
    | some (.error e, manager, c) =>
      let stats := { k.stats with lockFailures := k.stats.lockFailures + 1 }
      (.error e, { k with manager, stats }, c)
    | some (.ok _, manager, c) =>
      let stats := { k.stats with framesConsumed := k.stats.framesConsumed + 1 }
      let k := { k with manager, stats, framePending := false, state := .awaitingFrame }
      match manager.frame? c with
      | none => (.error (k.invalid .consume), k, c)
      | some frame => (.ok frame, k, c)

/-- Gives everything back, for good; once is enough. -/
def release (k : Controller) (c : Compositor) : Controller × Compositor :=
  if k.state = .released then (k, c)
  else
    let (manager, c) := k.manager.destroy c
    ({ k with manager, desired := none, real := none, framePending := false, state := .released },
      c)

end Controller

end ScreenCapture
