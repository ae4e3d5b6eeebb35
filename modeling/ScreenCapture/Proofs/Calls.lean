import ScreenCapture.Compositor.Displays

namespace ScreenCapture

/-- The calls that a compositor answers, one at a time. -/
inductive Call
  | arm (point : FailPoint) (status : Status)
  | startPool
  | connect
  | panel (id : Int32)
  | newQueue
  | disableAsync (queue : QueueId)
  | setSize (queue : QueueId) (width height : UInt32)
  | setFormat (queue : QueueId) (format : FormatCode)
  | newReader (queue : QueueId) (maxLocked : Nat)
  | newWaiter
  | dropWaiter (waiter : WaiterId)
  | takeNotice (waiter : WaiterId)
  | listen (queue : QueueId) (waiter : WaiterId)
  | produce (queue : QueueId) (paint : Painter)
  | disconnect (queue : QueueId)
  | lock (queue : QueueId)
  | unlock (queue : QueueId)
  | dropProducer (queue : QueueId)
  | dropEndpoint (queue : QueueId)
  | dropReader (queue : QueueId)
  | newDisplay
  | transact (token : DisplayToken) (surface : QueueId) (projection : Projection)
  | destroy (token : DisplayToken)
  /-- The next section of a renderer. -/
  | render (token : DisplayToken)

inductive Reply
  | done
  | told (result : Except Status Unit)
  | numbered (result : Except Status Nat)
  | described (result : Except Status Panel)
  | noticed (taken : Bool)
  | produced (result : Production)
  | locked (result : Except Status LockedBuffer)

namespace Call

/-- A frame for which there is no room is not drawn: the call that produces it is not over. -/
def perform (c : Compositor) : Call → Reply × Compositor
  | arm point status => (.done, c.arm point status)
  | startPool => (.done, c.startPool)
  | connect => (.told c.connect.1, c.connect.2)
  | panel id => (.described (c.panel id).1, (c.panel id).2)
  | newQueue => (.numbered c.newQueue.1, c.newQueue.2)
  | disableAsync queue => (.told (c.disableAsync queue).1, (c.disableAsync queue).2)
  | setSize queue width height =>
    (.told (c.setSize queue width height).1, (c.setSize queue width height).2)
  | setFormat queue format => (.told (c.setFormat queue format).1, (c.setFormat queue format).2)
  | newReader queue maxLocked =>
    (.told (c.newReader queue maxLocked).1, (c.newReader queue maxLocked).2)
  | newWaiter => (.numbered (.ok c.newWaiter.1), c.newWaiter.2)
  | dropWaiter waiter => (.done, c.dropWaiter waiter)
  | takeNotice waiter =>
    match c.takeNotice? waiter with
    | some d => (.noticed true, d)
    | none => (.noticed false, c)
  | listen queue waiter => (.done, c.listen queue waiter)
  | produce queue paint =>
    match c.produce queue paint with
    | (.blocked, _) => (.produced .blocked, c)
    | (result, d) => (.produced result, d)
  | disconnect queue => (.done, c.disconnect queue)
  | lock queue => (.locked (c.lock queue).1, (c.lock queue).2)
  | unlock queue => (.told (c.unlock queue).1, (c.unlock queue).2)
  | dropProducer queue => (.done, c.dropProducer queue)
  | dropEndpoint queue => (.done, c.dropEndpoint queue)
  | dropReader queue => (.done, c.dropReader queue)
  | newDisplay => (.numbered c.newDisplay.1, c.newDisplay.2)
  | transact token surface projection =>
    (.told (c.applyTransaction token surface projection).1,
      (c.applyTransaction token surface projection).2)
  | destroy token => (.done, c.destroyDisplay token)
  | render token => (.done, c.renderStep token)

def run (calls : List Call) (c : Compositor) : Compositor :=
  calls.foldl (fun c call => (call.perform c).2) c

end Call

/-- A call, and the compositor that answers it. -/
structure Exchange where
  before : Compositor
  call : Call

namespace Exchange

def reply (x : Exchange) : Reply := (x.call.perform x.before).1

def after (x : Exchange) : Compositor := (x.call.perform x.before).2

end Exchange

namespace Call

def exchanges : List Call → Compositor → List Exchange
  | [], _ => []
  | call :: rest, c => ⟨c, call⟩ :: exchanges rest (call.perform c).2

variable {c : Compositor}

theorem run_snoc (calls : List Call) (call : Call) (c : Compositor) :
    run (calls ++ [call]) c = (call.perform (run calls c)).2 := by
  simp [run]

theorem exchanges_snoc (calls : List Call) (call : Call) (c : Compositor) :
    exchanges (calls ++ [call]) c = exchanges calls c ++ [⟨run calls c, call⟩] := by
  induction calls generalizing c with
  | nil => rfl
  | cons first rest ih =>
    rw [List.cons_append, exchanges, ih]
    rfl

theorem perform_produce_of_none {id : QueueId} (h : c.channels.find? id = none) (paint : Painter) :
    (produce id paint).perform c = (.produced (.refused .deadObject), c) := by
  simp only [perform, Compositor.produce, h]

/-- What a frame comes to is said by `draw` alone, for one without room draws nothing. -/
theorem perform_produce {id : QueueId} {channel : Channel}
    (h : c.channels.find? id = some channel) (paint : Painter) :
    (produce id paint).perform c =
      (.produced (c.draw id channel paint).1, (c.draw id channel paint).2) := by
  simp only [perform, Compositor.produce, h, Compositor.draw]
  cases channel.queue.slot with
  | refused status => rfl
  | busy => rfl
  | free canvas =>
    simp only
    cases channel.queue.commit canvas (.mk fun _ => paint canvas canvas.blank) <;> rfl

end Call

end ScreenCapture
