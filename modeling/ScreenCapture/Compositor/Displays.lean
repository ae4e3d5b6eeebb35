import ScreenCapture.Compositor.Queues

namespace ScreenCapture.Compositor

/-- Registers a virtual display, which shows nothing yet. -/
def newDisplay (c : Compositor) : Except Status DisplayToken × Compositor :=
  c.guarded .newDisplay fun c =>
    let (token, c) := c.takeId
    let display : VirtualDisplay := { projection := none, renderer := none }
    (.ok token,
      { c with displays := c.displays.insert token display }.record (.displayCreated token))

/-- The projection last published for a display. -/
def projection (c : Compositor) (token : DisplayToken) : Option Projection :=
  (c.displays.find? token).bind (·.projection)

def renderer? (c : Compositor) (token : DisplayToken) : Option Renderer :=
  (c.displays.find? token).bind (·.renderer)

def setPhase (c : Compositor) (token : DisplayToken) (phase : RenderPhase) : Compositor :=
  { c with displays := c.displays.modify token fun d =>
      { d with renderer := d.renderer.map fun r => { r with phase } } }

/-- Looks for a free buffer to draw in. -/
def beginFrame (c : Compositor) (token : DisplayToken) : Compositor :=
  match c.renderer? token with
  | some ⟨surface, _, .waiting⟩ =>
    match c.queue? surface with
    | none => c.setPhase token .stopped
    | some queue =>
      match queue.slot with
      | .free canvas => c.setPhase token (.painting canvas)
      | .busy => c
      | .refused _ => c.setPhase token .stopped
  | _ => c

/-- Queues the buffer that was drawn meanwhile. -/
def commitFrame (c : Compositor) (token : DisplayToken) : Compositor :=
  match c.renderer? token with
  | some ⟨surface, projection, .painting canvas⟩ =>
    match c.queue? surface with
    | none => c.setPhase token .stopped
    | some queue =>
      match queue.commit canvas (.mk fun _ => projection.paint canvas canvas.blank) with
      | .error _ => c.setPhase token .stopped
      | .ok commit =>
        (c.setQueue surface commit.queue).setPhase token
          (match commit.announce with
          | some waiter => .announcing waiter
          | none => .waiting)
  | _ => c

/-- Tells the listener about the queued frame. -/
def announceFrame (c : Compositor) (token : DisplayToken) : Compositor :=
  match c.renderer? token with
  | some ⟨_, _, .announcing waiter⟩ => (c.notify waiter).setPhase token .waiting
  | _ => c

/-- The next section of a renderer. Between two sections anything else may happen. -/
def renderStep (c : Compositor) (token : DisplayToken) : Compositor :=
  match c.renderer? token with
  | some ⟨_, _, .waiting⟩ => c.beginFrame token
  | some ⟨_, _, .painting _⟩ => c.commitFrame token
  | some ⟨_, _, .announcing _⟩ => c.announceFrame token
  | some ⟨_, _, .stopped⟩ | none => c

/-- Lets time pass until every renderer has drawn a frame or waits for its surface. They draw at the
same time: all have looked for a buffer before the first frame is queued. -/
def renderAll (c : Compositor) : Compositor :=
  let tokens := c.displays.keys
  tokens.foldl announceFrame (tokens.foldl commitFrame (tokens.foldl beginFrame c))

/-- Stops a renderer: its surface is abandoned. A frame that it has queued is still announced. -/
def stopRenderer (c : Compositor) (r : Renderer) : Compositor :=
  let c := c.disconnect r.surface
  match r.phase with
  | .announcing waiter => c.notify waiter
  | _ => c

/-- Publishes a projection of a display onto a surface. What the display showed before is stopped
first. -/
def applyTransaction (c : Compositor) (token : DisplayToken) (surface : QueueId)
    (projection : Projection) : Except Status Unit × Compositor :=
  c.guarded .transaction fun c =>
    if projection.layerStack.isEmpty || projection.visible.isEmpty then (.error .badValue, c)
    else
      match c.displays.find? token with
      | none => (.error .nameNotFound, c)
      | some display =>
        if (c.channels.find? surface).isNone then (.error .deadObject, c)
        else
          let c := match display.renderer with
            | none => c
            | some r => c.stopRenderer r
          let c := { c with displays := c.displays.modify token fun d =>
            { d with projection := some projection
                     renderer := some { surface, projection, phase := .waiting } } }
          let c := match display.renderer with
            | none => c
            | some r => c.reap r.surface
          (.ok (), c.record (.transactionApplied token))

/-- Removes a display; an unknown one is ignored. -/
def destroyDisplay (c : Compositor) (token : DisplayToken) : Compositor :=
  match c.displays.find? token with
  | none => c
  | some display =>
    let c := { c with displays := c.displays.erase token }
    let c := match display.renderer with
      | none => c
      | some r => (c.stopRenderer r).reap r.surface
    c.record (.displayDestroyed token)

/-- Whether a frame comes within so many nanoseconds. -/
def framesWithin (c : Compositor) (timeout : Nat) : Bool := c.interval < timeout

/-- Waits for an announcement, which renderers make if they draw in time. -/
def awaitNotice (c : Compositor) (waiter : WaiterId) (arrives : Bool) : Bool × Compositor :=
  match c.takeNotice? waiter with
  | some c => (true, c)
  | none =>
    if arrives then
      let c := c.renderAll
      match c.takeNotice? waiter with
      | some c => (true, c)
      | none => (false, c)
    else (false, c)

end ScreenCapture.Compositor
