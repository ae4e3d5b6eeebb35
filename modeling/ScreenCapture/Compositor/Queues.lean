import ScreenCapture.Compositor.Basic

namespace ScreenCapture

/-- What a call to produce a frame comes to. -/
inductive Production
  /-- No buffer was drawn into. -/
  | refused (status : Status)
  /-- The call goes on until the slot is free. -/
  | blocked
  | finished (canvas : Canvas) (result : Except Status Nat)

namespace Compositor

/-- Calls a queue; one that was released answers as a dead object. -/
def onChannel {α : Type} (c : Compositor) (id : QueueId)
    (call : Channel → Except Status α × Compositor) : Except Status α × Compositor :=
  match c.channels.find? id with
  | none => (.error .deadObject, c)
  | some channel => call channel

/-- Replaces a queue, unless the change is refused. -/
def updateQueue (c : Compositor) (id : QueueId) (change : Queue → Except Status Queue) :
    Except Status Unit × Compositor :=
  c.onChannel id fun channel =>
    match change channel.queue with
    | .error status => (.error status, c)
    | .ok queue => (.ok (), c.setQueue id queue)

/-- A new queue, with both of its ends held. -/
def newQueue (c : Compositor) : Except Status QueueId × Compositor :=
  c.guarded .newQueue fun c =>
    let (id, c) := c.takeId
    let channel : Channel :=
      { queue := .fresh, reader := none, producerHeld := true, endpointHeld := true,
        waitingCall := none }
    (.ok id, { c with channels := c.channels.insert id channel }.record (.queueCreated id))

def disableAsync (c : Compositor) (id : QueueId) : Except Status Unit × Compositor :=
  c.updateQueue id Queue.disableAsync

def setSize (c : Compositor) (id : QueueId) (width height : UInt32) :
    Except Status Unit × Compositor :=
  c.guarded .queueSize fun c => c.updateQueue id fun q => q.setSize width height

def setFormat (c : Compositor) (id : QueueId) (format : FormatCode) :
    Except Status Unit × Compositor :=
  c.updateQueue id fun q => q.setFormat format

/-- Creates the reader of a queue. -/
def newReader (c : Compositor) (id : QueueId) (maxLocked : Nat) : Except Status Unit × Compositor :=
  c.guarded .newReader fun c =>
    c.onChannel id fun channel =>
      match channel.queue.attachReader maxLocked with
      | .error status => (.error status, c)
      | .ok queue =>
        (.ok (), c.modifyChannel id fun channel => { channel with queue, reader := some .fresh })

/-- Tells a waiter about every frame that is queued from now on. -/
def listen (c : Compositor) (id : QueueId) (waiter : WaiterId) : Compositor :=
  c.modifyChannel id fun channel => { channel with queue := channel.queue.listen waiter }

def announce (c : Compositor) : Option WaiterId → Compositor
  | none => c
  | some waiter => c.notify waiter

/-- Draws a frame and queues it, unless the slot is busy or the queue refuses. -/
def draw (c : Compositor) (id : QueueId) (channel : Channel) (paint : Painter) :
    Production × Compositor :=
  match channel.queue.slot with
  | .refused status => (.refused status, c)
  | .busy => (.blocked, c)
  | .free canvas =>
    match channel.queue.commit canvas (.mk fun _ => paint canvas canvas.blank) with
    | .error status => (.finished canvas (.error status), c)
    | .ok commit =>
      (.finished canvas (.ok commit.number),
        (c.setQueue id commit.queue).announce commit.announce)

/-- Produces a frame. A call that finds the slot busy holds the queue while it waits. -/
def produce (c : Compositor) (id : QueueId) (paint : Painter) : Production × Compositor :=
  match c.channels.find? id with
  | none => (.refused .deadObject, c)
  | some channel =>
    match c.draw id channel paint with
    | (.blocked, c) =>
      (.blocked, c.modifyChannel id fun channel => { channel with waitingCall := some paint })
    | done => done

/-- Goes on with a call that waits for the slot, and lets go of the queue when it is done. -/
def resume (c : Compositor) (id : QueueId) : Option Production × Compositor :=
  match c.channels.find? id with
  | none => (none, c)
  | some channel =>
    match channel.waitingCall with
    | none => (none, c)
    | some paint =>
      match c.draw id channel paint with
      | (.blocked, c) => (none, c)
      | (done, c) =>
        (some done,
          (c.modifyChannel id fun channel => { channel with waitingCall := none }).reap id)

/-- Abandons a queue. -/
def disconnect (c : Compositor) (id : QueueId) : Compositor :=
  c.modifyChannel id fun channel => { channel with queue := channel.queue.disconnect }

/-- Calls the reader of a queue; one without a reader answers as a dead object. -/
def onReader {α : Type} (c : Compositor) (id : QueueId)
    (call : Reader → Queue → Except Status (α × Reader × Queue)) : Except Status α × Compositor :=
  c.onChannel id fun channel =>
    match channel.reader with
    | none => (.error .deadObject, c)
    | some reader =>
      match call reader channel.queue with
      | .error status => (.error status, c)
      | .ok (a, reader, queue) =>
        (.ok a, c.modifyChannel id fun channel => { channel with queue, reader := some reader })

/-- Locks the queued frame. -/
def lock (c : Compositor) (id : QueueId) : Except Status LockedBuffer × Compositor :=
  c.guarded .lock fun c => c.onReader id Reader.lock

/-- Data of the locked buffer, empty when nothing is locked. -/
def lockedData (c : Compositor) (id : QueueId) : Thunk Bytes :=
  (((c.channels.find? id).bind (·.reader)).map Reader.lockedData).getD (.pure #[])

def unlock (c : Compositor) (id : QueueId) : Except Status Unit × Compositor :=
  c.onReader id fun reader queue => (reader.unlock queue).map fun r => ((), r)

/-- The reader of a queue as a source of frames. -/
def source (id : QueueId) : BufferSource Compositor where
  lock c := c.lock id
  data c := c.lockedData id
  unlock _ c := c.unlock id

def dropProducer (c : Compositor) (id : QueueId) : Compositor :=
  (c.modifyChannel id fun channel => { channel with producerHeld := false }).reap id

def dropEndpoint (c : Compositor) (id : QueueId) : Compositor :=
  (c.modifyChannel id fun channel => { channel with endpointHeld := false }).reap id

/-- Lets go of the reader, which gives back its buffer and hears of no further frames. -/
def dropReader (c : Compositor) (id : QueueId) : Compositor :=
  (c.modifyChannel id fun channel =>
    match channel.reader with
    | none => channel
    | some reader => { channel with queue := reader.drop channel.queue, reader := none }).reap id

/-- Lets go of the producer, the endpoint and the reader. -/
def dropQueue (c : Compositor) (id : QueueId) : Compositor :=
  ((c.dropProducer id).dropEndpoint id).dropReader id

end Compositor

end ScreenCapture
