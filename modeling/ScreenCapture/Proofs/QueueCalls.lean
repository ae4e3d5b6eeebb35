import ScreenCapture.Proofs.Calls
import ScreenCapture.Proofs.TearDown

namespace ScreenCapture

namespace Reply

/-- Number of the frame that was produced. -/
def number? : Reply → Option Nat
  | produced (.finished _ (.ok number)) => some number
  | _ => none

/-- The buffer that was locked. -/
def buffer? : Reply → Option LockedBuffer
  | locked (.ok buffer) => some buffer
  | _ => none

end Reply

/-- Whether a call is made on the queue, by its producer, its endpoint or its reader. Any call may
be made to fail. -/
def Call.isOn (id : QueueId) : Call → Bool
  | arm _ _ => true
  | disableAsync queue | setSize queue _ _ | setFormat queue _ | newReader queue _
  | produce queue _ | disconnect queue | lock queue | unlock queue | dropReader queue => queue = id
  | startPool | connect | panel _ | newQueue | newWaiter | dropWaiter _ | takeNotice _ | listen _ _
  | dropProducer _ | dropEndpoint _ | newDisplay | transact _ _ _ | destroy _ | render _ => false

theorem Queue.slot_eq_free {q : Queue} {canvas : Canvas} (h : q.slot = .free canvas) :
    q.abandoned = false ∧ (q.sync = true → q.locked = false ∧ q.queued = none) ∧
      canvas = q.canvas := by
  unfold slot at h
  split at h
  next => cases h
  next halive =>
    split at h
    next => cases h
    next hbusy =>
      split at h
      next => cases h
      next =>
        cases h
        refine ⟨Bool.eq_false_iff.mpr halive, fun hs => ?_, rfl⟩
        simpa [hs] using hbusy

theorem Queue.commit_of_alive {q : Queue} (h : q.abandoned = false) (canvas : Canvas)
    (data : Thunk Bytes) :
    q.commit canvas data = .ok
      { queue := { q with
          queued := some { canvas, number := q.nextFrame, data }, nextFrame := q.nextFrame + 1 }
        number := q.nextFrame
        announce := if q.queued.isSome then none else q.listener } :=
  if_neg (Bool.eq_false_iff.mp h)

theorem Compositor.announce_waiters {c d : Compositor} (h : d.waiters = c.waiters)
    (waiter : Option WaiterId) : (d.announce waiter).waiters = (c.announce waiter).waiters := by
  cases waiter with
  | none => exact h
  | some waiter => exact congrArg (·.modify waiter Waiter.notify) h

theorem Compositor.announce_channels (c : Compositor) (waiter : Option WaiterId) :
    (c.announce waiter).channels = c.channels := by
  cases waiter <;> rfl

namespace Channel

/-- The waiter that is told about a frame, by the reply of the call. -/
def announced (channel : Channel) : Reply → Option WaiterId
  | .produced (.finished _ (.ok _)) =>
    if channel.queue.queued.isSome then none else channel.queue.listener
  | _ => none

/-- The frame that is produced next. -/
def painted (channel : Channel) (paint : Painter) : QueuedFrame :=
  { canvas := channel.queue.canvas, number := channel.queue.nextFrame
    data := .mk fun _ => paint channel.queue.canvas channel.queue.canvas.blank }

/-- What a call on a queue does to it and to those who hold it. -/
inductive Step (channel : Channel) : Call → Reply → Channel → Prop
  | kept {call reply} : (∀ id, call ≠ .disconnect id) → reply ≠ .told (.ok ()) →
      reply.number? = none → reply.buffer? = none → Step channel call reply channel
  | synced {id} : channel.queue.hasReader = false →
      Step channel (.disableAsync id) (.told (.ok ()))
        { channel with queue := { channel.queue with sync := true } }
  | sized {id width height} : Step channel (.setSize id width height) (.told (.ok ()))
      { channel with queue := { channel.queue with width, height } }
  | formatted {id format} : Step channel (.setFormat id format) (.told (.ok ()))
      { channel with queue := { channel.queue with format } }
  | attached {id maxLocked} : channel.queue.hasReader = false →
      Step channel (.newReader id maxLocked) (.told (.ok ()))
        { channel with
          queue := { channel.queue with hasReader := true }, reader := some .fresh }
  | produced {id paint} : channel.queue.abandoned = false →
      (channel.queue.sync = true →
        channel.queue.locked = false ∧ channel.queue.queued = none) →
      Step channel (.produce id paint)
        (.produced (.finished channel.queue.canvas (.ok channel.queue.nextFrame)))
        { channel with queue := { channel.queue with
            queued := some (channel.painted paint), nextFrame := channel.queue.nextFrame + 1 } }
  | disconnected {id} :
      Step channel (.disconnect id) .done { channel with queue := channel.queue.disconnect }
  | locked {id frame} : channel.reader = some ⟨none⟩ → channel.queue.queued = some frame →
      Step channel (.lock id) (.locked (.ok (Reader.describe frame)))
        { channel with
          queue := { channel.queue with queued := none, locked := true }
          reader := some ⟨some frame.data⟩ }
  | unlocked {id data} : channel.reader = some ⟨some data⟩ →
      Step channel (.unlock id) (.told (.ok ()))
        { channel with queue := channel.queue.freeSlot, reader := some .fresh }
  | dropped {id reader} : channel.reader = some reader →
      Step channel (.dropReader id) .done
        { channel with queue := reader.drop channel.queue, reader := none }

end Channel

namespace Call

variable {c : Compositor} {id : QueueId} {channel : Channel}

/-- What a call on a queue comes to. -/
def Does (c : Compositor) (id : QueueId) (channel : Channel) (call : Call) : Prop :=
  ∃ after, (call.perform c).2.channels.find? id = some after ∧
    channel.Step call (call.perform c).1 after ∧
    (call.perform c).2.waiters = (c.announce (channel.announced (call.perform c).1)).waiters

/-- A reply by which nothing was done to the queue. -/
structure IsIdle (reply : Reply) : Prop where
  told : reply ≠ .told (.ok ())
  number : reply.number? = none
  buffer : reply.buffer? = none

theorem idle_done : IsIdle .done := ⟨nofun, rfl, rfl⟩

theorem idle_told (status : Status) : IsIdle (.told (.error status)) := ⟨nofun, rfl, rfl⟩

theorem idle_locked (status : Status) : IsIdle (.locked (.error status)) := ⟨nofun, rfl, rfl⟩

theorem idle_produced {result : Production} (h : (Reply.produced result).number? = none) :
    IsIdle (.produced result) := ⟨nofun, h, rfl⟩

theorem announced_of_number? {reply : Reply} (h : reply.number? = none) :
    channel.announced reply = none := by
  unfold Channel.announced
  split
  next => cases h
  next => rfl

theorem Does.kept {call : Call} {reply : Reply} {d : Compositor}
    (hcall : ∀ queue, call ≠ .disconnect queue) (hf : c.channels.find? id = some channel)
    (hp : call.perform c = (reply, d))
    (hc : d.channels = c.channels) (hw : d.waiters = c.waiters) (hr : IsIdle reply) :
    Does c id channel call := by
  refine ⟨channel, ?_, ?_, ?_⟩
  · rw [hp, hc]
    exact hf
  · rw [hp]
    exact .kept hcall hr.told hr.number hr.buffer
  · rw [hp, announced_of_number? hr.number]
    exact hw

theorem Does.modified {call : Call} {reply : Reply} {φ : Channel → Channel}
    (hf : c.channels.find? id = some channel)
    (hp : call.perform c = (reply, c.modifyChannel id φ))
    (hs : channel.Step call reply (φ channel)) (hr : reply.number? = none) :
    Does c id channel call := by
  refine ⟨φ channel, ?_, ?_, ?_⟩
  · rw [hp]
    exact Compositor.find?_modifyChannel hf φ
  · rw [hp]
    exact hs
  · rw [hp, announced_of_number? hr]
    rfl

/-- A call that replaces the queue, if the queue agrees. -/
theorem Does.updated {call : Call} {change : Queue → Except Status Queue}
    (hcall : ∀ queue, call ≠ .disconnect queue) (hf : c.channels.find? id = some channel)
    (hp : call.perform c = (.told (c.updateQueue id change).1, (c.updateQueue id change).2))
    (hs : ∀ queue, change channel.queue = .ok queue →
      channel.Step call (.told (.ok ())) { channel with queue }) :
    Does c id channel call := by
  simp only [Compositor.updateQueue, Compositor.onChannel, hf] at hp
  cases hq : change channel.queue with
  | error status =>
    rw [hq] at hp
    exact .kept hcall hf hp rfl rfl (idle_told status)
  | ok queue =>
    rw [hq] at hp
    exact .modified hf hp (hs queue hq) rfl

/-- A call that is made to fail does nothing. -/
theorem Does.guarded {α : Type} {call : Call} {point : FailPoint} {answer : Except Status α → Reply}
    {f : Compositor → Except Status α × Compositor}
    (hdisconnect : ∀ queue, call ≠ .disconnect queue)
    (hf : c.channels.find? id = some channel)
    (hp : call.perform c = (answer (c.guarded point f).1, (c.guarded point f).2))
    (hr : ∀ status, IsIdle (answer (.error status)))
    (hcall : call.perform c = (answer (f c).1, (f c).2) → Does c id channel call) :
    Does c id channel call := by
  cases ha : c.armed point with
  | some status =>
    simp only [Compositor.guarded, ha] at hp
    exact .kept hdisconnect hf hp rfl rfl (hr status)
  | none =>
    simp only [Compositor.guarded, ha] at hp
    exact hcall hp

theorem does_disableAsync (hf : c.channels.find? id = some channel) :
    Does c id channel (.disableAsync id) := by
  refine .updated nofun hf rfl fun queue hq => ?_
  unfold Queue.disableAsync at hq
  split at hq
  next => cases hq
  next hr =>
    cases hq
    exact .synced (Bool.eq_false_iff.mpr hr)

theorem does_setSize (hf : c.channels.find? id = some channel) (width height : UInt32) :
    Does c id channel (.setSize id width height) := by
  refine .guarded nofun hf rfl idle_told fun hp => .updated nofun hf hp fun queue hq => ?_
  unfold Queue.setSize at hq
  split at hq
  next => cases hq
  next =>
    cases hq
    exact .sized

theorem does_setFormat (hf : c.channels.find? id = some channel) (format : FormatCode) :
    Does c id channel (.setFormat id format) := by
  refine .updated nofun hf rfl fun queue hq => ?_
  unfold Queue.setFormat at hq
  split at hq
  next => cases hq
  next =>
    cases hq
    exact .formatted

theorem does_newReader (hf : c.channels.find? id = some channel) (maxLocked : Nat) :
    Does c id channel (.newReader id maxLocked) := by
  refine .guarded nofun hf rfl idle_told fun hp => ?_
  simp only [Compositor.onChannel, hf] at hp
  cases hq : channel.queue.attachReader maxLocked with
  | error status =>
    simp only [hq] at hp
    exact .kept nofun hf hp rfl rfl (idle_told status)
  | ok queue =>
    simp only [hq] at hp
    refine .modified hf hp ?_ rfl
    unfold Queue.attachReader at hq
    split at hq
    next => cases hq
    next =>
      split at hq
      next => cases hq
      next hr =>
        cases hq
        exact .attached (Bool.eq_false_iff.mpr hr)

theorem does_produce (hf : c.channels.find? id = some channel) (paint : Painter) :
    Does c id channel (.produce id paint) := by
  have hother (queue : QueueId) : Call.produce id paint ≠ .disconnect queue := nofun
  have hp := perform_produce hf paint
  simp only [Compositor.draw] at hp
  cases hs : channel.queue.slot with
  | refused status =>
    simp only [hs] at hp
    exact .kept hother hf hp rfl rfl (idle_produced rfl)
  | busy =>
    simp only [hs] at hp
    exact .kept hother hf hp rfl rfl (idle_produced rfl)
  | free canvas =>
    obtain ⟨halive, hfree, rfl⟩ := Queue.slot_eq_free hs
    simp only [hs, Queue.commit_of_alive halive] at hp
    let queue : Queue := { channel.queue with
      queued := some (channel.painted paint), nextFrame := channel.queue.nextFrame + 1 }
    refine ⟨{ channel with queue }, ?_, ?_, ?_⟩
    · rw [hp, Compositor.announce_channels]
      exact Compositor.find?_modifyChannel hf _
    · rw [hp]
      exact .produced halive hfree
    · rw [hp]
      exact Compositor.announce_waiters (c := c) (d := c.setQueue id queue) rfl _

theorem does_disconnect (hf : c.channels.find? id = some channel) :
    Does c id channel (.disconnect id) :=
  .modified hf rfl .disconnected rfl

theorem does_lock (hf : c.channels.find? id = some channel) : Does c id channel (.lock id) := by
  refine .guarded nofun hf rfl idle_locked fun hp => ?_
  simp only [Compositor.onReader, Compositor.onChannel, hf] at hp
  cases hr : channel.reader with
  | none =>
    simp only [hr] at hp
    exact .kept nofun hf hp rfl rfl (idle_locked _)
  | some reader =>
    obtain ⟨_ | data⟩ := reader
    · cases hq : channel.queue.queued with
      | none =>
        simp only [hr, Reader.lock, Queue.acquire?, hq, Option.isSome_none, Bool.false_eq_true,
          if_false, Option.map_none] at hp
        exact .kept nofun hf hp rfl rfl (idle_locked _)
      | some frame =>
        simp only [hr, Reader.lock, Queue.acquire?, hq, Option.isSome_none, Bool.false_eq_true,
          if_false, Option.map_some] at hp
        exact .modified hf hp (.locked hr hq) rfl
    · simp only [hr, Reader.lock, Option.isSome_some, if_true] at hp
      exact .kept nofun hf hp rfl rfl (idle_locked _)

theorem does_unlock (hf : c.channels.find? id = some channel) :
    Does c id channel (.unlock id) := by
  have hother (queue : QueueId) : Call.unlock id ≠ .disconnect queue := nofun
  have hp : (Call.unlock id).perform c = (.told (c.unlock id).1, (c.unlock id).2) := rfl
  simp only [Compositor.unlock, Compositor.onReader, Compositor.onChannel, hf] at hp
  cases hr : channel.reader with
  | none =>
    simp only [hr] at hp
    exact .kept hother hf hp rfl rfl (idle_told _)
  | some reader =>
    obtain ⟨_ | data⟩ := reader
    · simp only [hr, Reader.unlock, Option.isSome_none, Bool.false_eq_true, if_false,
        Except.map] at hp
      exact .kept hother hf hp rfl rfl (idle_told _)
    · simp only [hr, Reader.unlock, Option.isSome_some, if_true, Except.map] at hp
      exact .modified hf hp (.unlocked hr) rfl

theorem does_dropReader (hf : c.channels.find? id = some channel)
    (hheld : channel.producerHeld = true) : Does c id channel (.dropReader id) := by
  have hother (queue : QueueId) : Call.dropReader id ≠ .disconnect queue := nofun
  refine .modified hf (congrArg (Prod.mk Reply.done) (Compositor.reap_modify_held hf ?_)) ?_ rfl
  · cases hr : channel.reader <;> simp [Compositor.isHeld, hr, hheld]
  · cases hr : channel.reader with
    | none => exact .kept hother idle_done.told rfl rfl
    | some reader => exact .dropped hr

/-- Every call on a queue is one of the steps, if only the queue outlives its reader. -/
theorem does_of_isOn (hf : c.channels.find? id = some channel) {call : Call}
    (hon : call.isOn id = true) (hheld : call = .dropReader id → channel.producerHeld = true) :
    Does c id channel call := by
  cases call with
  | arm point status => exact .kept nofun hf rfl rfl rfl idle_done
  | disableAsync queue =>
    obtain rfl := of_decide_eq_true hon
    exact does_disableAsync hf
  | setSize queue width height =>
    obtain rfl := of_decide_eq_true hon
    exact does_setSize hf width height
  | setFormat queue format =>
    obtain rfl := of_decide_eq_true hon
    exact does_setFormat hf format
  | newReader queue maxLocked =>
    obtain rfl := of_decide_eq_true hon
    exact does_newReader hf maxLocked
  | produce queue paint =>
    obtain rfl := of_decide_eq_true hon
    exact does_produce hf paint
  | disconnect queue =>
    obtain rfl := of_decide_eq_true hon
    exact does_disconnect hf
  | lock queue =>
    obtain rfl := of_decide_eq_true hon
    exact does_lock hf
  | unlock queue =>
    obtain rfl := of_decide_eq_true hon
    exact does_unlock hf
  | dropReader queue =>
    obtain rfl := of_decide_eq_true hon
    exact does_dropReader hf (hheld rfl)
  | startPool | connect | panel | newQueue | newWaiter | dropWaiter | takeNotice | listen
  | dropProducer | dropEndpoint | newDisplay | transact | destroy | render => cases hon

end Call

end ScreenCapture
