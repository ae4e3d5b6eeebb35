import ScreenCapture.Proofs.TearDown

namespace ScreenCapture

/-- A call of the set-up that can fail, and what is left behind when it does. -/
structure SetupStage where
  point : FailPoint
  error : StatusName → CaptureError
  /-- How many numbers of queues and displays, and of waiters, are used up. -/
  ids : Nat
  waiters : Nat
  events : Nat → List Event

/-- The stages in their order. -/
def setupStages : List SetupStage :=
  [{ point := .connection, error := .serviceUnavailable, ids := 0, waiters := 0
     events := fun _ => [] },
    { point := .newQueue, error := .setupFailed .newQueue, ids := 0, waiters := 0
      events := fun _ => [] },
    { point := .queueSize, error := .setupFailed .queueSettings, ids := 1, waiters := 0
      events := fun n => [.queueCreated n, .queueReleased n] },
    { point := .newReader, error := .setupFailed .newReader, ids := 1, waiters := 0
      events := fun n => [.queueCreated n, .queueReleased n] },
    { point := .newDisplay, error := .setupFailed .newDisplay, ids := 1, waiters := 1
      events := fun n => [.queueCreated n, .queueReleased n] },
    { point := .transaction, error := .setupFailed .publication, ids := 2, waiters := 1
      events := fun n =>
        [.queueCreated n, .displayCreated (n + 1), .displayDestroyed (n + 1), .queueReleased n] }]

namespace Compositor

/-- The first stage that is armed to fail. -/
def failingStage? (c : Compositor) : Option (SetupStage × Status) :=
  setupStages.findSome? fun stage => (c.armed stage.point).map fun status => (stage, status)

/-- The compositor after a set-up that failed at a stage. -/
def failedAt (c : Compositor) (stage : SetupStage) : Compositor :=
  { c.disarm stage.point with
    nextId := c.nextId + stage.ids, nextWaiter := c.nextWaiter + stage.waiters
    events := c.events ++ stage.events c.nextId }

/-- Where the next output will stand. -/
def nextSite (c : Compositor) (p : OutputParams) : Site :=
  { display := c.nextId + 1, queue := c.nextId, waiter := c.nextWaiter, params := p }

/-- The output that stands there. -/
def nextOutput (c : Compositor) (p : OutputParams) : VirtualOutput :=
  { display := c.nextId + 1, queue := c.nextId, waiter := c.nextWaiter, holder := .empty
    params := p }

/-- The compositor after a set-up that succeeded. -/
def hosting (c : Compositor) (p : OutputParams) : Compositor :=
  { c with
    channels := c.channels.insert c.nextId ((c.nextSite p).channel .fresh)
    displays := c.displays.insert (c.nextId + 1) ((c.nextSite p).shown .fresh)
    waiters := c.waiters.insert c.nextWaiter .idle
    nextId := c.nextId + 2, nextWaiter := c.nextWaiter + 1
    events := c.events ++
      [.queueCreated c.nextId, .displayCreated (c.nextId + 1), .transactionApplied (c.nextId + 1)] }

/-- What a set-up comes to, by the stage that fails. -/
def setupOutcome (c : Compositor) (p : OutputParams) :
    Option (SetupStage × Status) → Except CaptureError VirtualOutput × Compositor
  | some (stage, status) => (.error (stage.error status.name), c.failedAt stage)
  | none => (.ok (c.nextOutput p), c.hosting p)

/-- The first of the stages after so many that is armed to fail. -/
def failingFrom (c : Compositor) (done : Nat) : Option (SetupStage × Status) :=
  (setupStages.drop done).findSome? fun stage =>
    (c.armed stage.point).map fun status => (stage, status)

theorem failingFrom_armed {c : Compositor} {done : Nat} {stage : SetupStage}
    {rest : List SetupStage} {status : Status} (hs : setupStages.drop done = stage :: rest)
    (ha : c.armed stage.point = some status) : c.failingFrom done = some (stage, status) := by
  rw [failingFrom, hs, List.findSome?_cons, ha]
  rfl

theorem failingFrom_free {c : Compositor} {done : Nat} {stage : SetupStage}
    {rest : List SetupStage} (hs : setupStages.drop done = stage :: rest)
    (ha : c.armed stage.point = none) : c.failingFrom done = c.failingFrom (done + 1) := by
  have hrest : setupStages.drop (done + 1) = rest := by
    rw [← List.tail_drop, hs]
    rfl
  rw [failingFrom, failingFrom, hs, hrest, List.findSome?_cons, ha]
  rfl

/-- The numbers that are given out next are not in use. -/
structure Unused (c : Compositor) : Prop where
  channel : c.channels.find? c.nextId = none
  display : c.displays.find? (c.nextId + 1) = none
  waiter : c.waiters.find? c.nextWaiter = none
  surface : c.isShown c.nextId = false

theorem Hosts.unused {c : Compositor} {feeds : Feeds} (h : c.Hosts feeds) : c.Unused where
  channel := h.channels.find?_none fun e he => Nat.ne_of_lt (h.below e he).1
  display := h.displays.find?_none fun e he =>
    Nat.ne_of_lt (Nat.lt_succ_of_lt (h.below e he).2.1)
  waiter := h.waiters.find?_none fun e he => Nat.ne_of_lt (h.below e he).2.2
  surface := by
    simp only [isShown]
    rw [h.displays, List.any_map, List.any_eq_false]
    intro e he
    have hq : e.1.queue ≠ c.nextId := Nat.ne_of_lt (h.below e he).1
    simp [Site.shown, Site.renderer, hq]

theorem Hosts.hosting {c : Compositor} {feeds : Feeds} (h : c.Hosts feeds) (p : OutputParams) :
    (c.hosting p).Hosts (feeds ++ [(c.nextSite p, .fresh)]) where
  channels := h.channels.insert (s := c.nextSite p) h.unused.channel .fresh
  displays := h.displays.insert (s := c.nextSite p) h.unused.display .fresh
  waiters := h.waiters.insert (s := c.nextSite p) h.unused.waiter .fresh
  below := by
    intro e he
    rcases List.mem_append.mp he with hold | hnew
    · obtain ⟨hq, hd, hw⟩ := h.below e hold
      exact ⟨Nat.lt_add_right 2 hq, Nat.lt_add_right 2 hd, Nat.lt_add_right 1 hw⟩
    · rw [List.mem_singleton.mp hnew]
      exact ⟨Nat.lt_add_of_pos_right (by decide), Nat.lt_succ_self _, Nat.lt_succ_self _⟩

theorem Hosts.failedAt {c : Compositor} {feeds : Feeds} (h : c.Hosts feeds) (stage : SetupStage) :
    (c.failedAt stage).Hosts feeds where
  channels := h.channels
  displays := h.displays
  waiters := h.waiters
  below := by
    intro e he
    obtain ⟨hq, hd, hw⟩ := h.below e he
    exact ⟨Nat.lt_add_right _ hq, Nat.lt_add_right _ hd, Nat.lt_add_right _ hw⟩

/-- The compositor with a new queue. -/
def opened (c : Compositor) (channel : Channel) : Compositor :=
  { c with
    channels := c.channels.insert c.nextId channel, nextId := c.nextId + 1
    events := c.events ++ [.queueCreated c.nextId] }

theorem opened_modifyChannel (c : Compositor) (channel : Channel) (φ : Channel → Channel) :
    (c.opened channel).modifyChannel c.nextId φ = c.opened (φ channel) := by
  simp only [modifyChannel, opened, Registry.modify_insert_self]

theorem opened_find? (c : Compositor) (channel : Channel) :
    (c.opened channel).channels.find? c.nextId = some channel :=
  c.channels.find?_insert_self c.nextId channel

/-- A new queue that is dropped leaves an event behind. -/
theorem Unused.dropQueue {c d : Compositor} (h : c.Unused) {channel : Channel}
    (hc : d.channels = c.channels.insert c.nextId channel) (hd : d.displays = c.displays)
    (he : channel.endpointHeld = true) (hw : channel.waitingCall = none) :
    d.dropQueue c.nextId =
      { d with channels := c.channels, events := d.events ++ [.queueReleased c.nextId] } := by
  have hf : d.channels.find? c.nextId = some channel := by
    rw [hc, Registry.find?_insert_self]
  have hs : d.isShown c.nextId = false := by
    rw [isShown, hd]
    exact h.surface
  rw [dropQueue_eq hf he hw hs, released, hc, Registry.erase_insert_self,
    Registry.erase_of_absent h.channel]

/-- The compositor with a new queue, and a waiter that listens to it. -/
def heard (c : Compositor) (channel : Channel) : Compositor :=
  { c.opened channel with
    waiters := c.waiters.insert c.nextWaiter .idle, nextWaiter := c.nextWaiter + 1 }

/-- The compositor with a new queue, its waiter, and a new display. -/
def registered (c : Compositor) (channel : Channel) (display : VirtualDisplay) : Compositor :=
  { c.heard channel with
    displays := c.displays.insert (c.nextId + 1) display, nextId := c.nextId + 2
    events := c.events ++ [.queueCreated c.nextId, .displayCreated (c.nextId + 1)] }

theorem newDisplay_heard (c : Compositor) (channel : Channel) :
    (c.heard channel).newDisplay =
      match c.armed .newDisplay with
      | some status => (.error status, (c.heard channel).disarm .newDisplay)
      | none => (.ok (c.nextId + 1), c.registered channel ⟨none, none⟩) := by
  simp only [newDisplay, guarded]
  rw [show (c.heard channel).armed = c.armed from rfl]
  cases c.armed .newDisplay with
  | some status => rfl
  | none => simp [takeId, record, registered, heard, opened]

end Compositor

namespace OutputParams

theorem projection_visible (p : OutputParams) (h : p.hasZeroSide = false) :
    (p.projection.layerStack.isEmpty || p.projection.visible.isEmpty) = false := by
  simp only [hasZeroSide, Bool.or_eq_false_iff, decide_eq_false_iff_not] at h
  simp [projection, Rect.ofSize, Rect.isEmpty, h]

end OutputParams

namespace Compositor

theorem applyTransaction_registered {c : Compositor} {channel : Channel} {p : OutputParams}
    (hz : p.hasZeroSide = false) (hc : channel = (c.nextSite p).channel .fresh) :
    (c.registered channel ⟨none, none⟩).applyTransaction (c.nextId + 1) c.nextId p.projection =
      match c.armed .transaction with
      | some status =>
        (.error status, (c.registered channel ⟨none, none⟩).disarm .transaction)
      | none => (.ok (), c.hosting p) := by
  simp only [applyTransaction, guarded]
  rw [show (c.registered channel ⟨none, none⟩).armed = c.armed from rfl]
  cases c.armed .transaction with
  | some status => rfl
  | none =>
    have hd : (c.registered channel ⟨none, none⟩).displays.find? (c.nextId + 1) =
        some ⟨none, none⟩ := c.displays.find?_insert_self _ _
    have hf : (c.registered channel ⟨none, none⟩).channels.find? c.nextId = some channel :=
      c.opened_find? channel
    simp only [p.projection_visible hz, hd, hf, Bool.false_eq_true, if_false, Option.isNone_some]
    simp [registered, heard, opened, hosting, record, Registry.modify_insert_self, hc, Site.shown,
      Site.renderer, Site.phase, nextSite, Feed.fresh]

theorem destroyDisplay_registered {c : Compositor} (h : c.Unused) (channel : Channel) :
    ((c.registered channel ⟨none, none⟩).disarm .transaction).destroyDisplay (c.nextId + 1) =
      { (c.heard channel).disarm .transaction with
        nextId := c.nextId + 2
        events := c.events ++ [.queueCreated c.nextId, .displayCreated (c.nextId + 1),
          .displayDestroyed (c.nextId + 1)] } := by
  have hd : ((c.registered channel ⟨none, none⟩).disarm .transaction).displays.find?
      (c.nextId + 1) = some ⟨none, none⟩ := c.displays.find?_insert_self _ _
  simp only [destroyDisplay, hd]
  simp [registered, disarm, record, Registry.erase_insert_self,
    Registry.erase_of_absent h.display, heard, opened]

end Compositor

namespace VirtualOutput

open Compositor

/-- A queue as it comes from the compositor. -/
def newChannel : Channel :=
  { queue := .fresh, reader := none, producerHeld := true, endpointHeld := true
    waitingCall := none }

def syncChannel : Channel := { newChannel with queue := { Queue.fresh with sync := true } }

/-- A queue with the settings of an output. -/
def configuredChannel (p : OutputParams) : Channel :=
  { newChannel with queue := { Queue.fresh with
      sync := true, width := p.desiredWidth, height := p.desiredHeight, format := pixelFormat } }

def readChannel (p : OutputParams) : Channel :=
  { newChannel with
    queue := { (configuredChannel p).queue with hasReader := true }, reader := some .fresh }

theorem configure_eq (c : Compositor) {p : OutputParams} (hz : p.hasZeroSide = false) :
    configure (c.opened newChannel) c.nextId p =
      match c.armed .queueSize with
      | some status => (.error status, (c.opened syncChannel).disarm .queueSize)
      | none => (.ok (), c.opened (configuredChannel p)) := by
  have hsync : (c.opened newChannel).disableAsync c.nextId = (.ok (), c.opened syncChannel) := by
    simp only [disableAsync, updateQueue, onChannel, opened_find?, setQueue, opened_modifyChannel]
    rfl
  have hsides : ¬(p.desiredWidth = 0 ∨ p.desiredHeight = 0) := by
    simp only [OutputParams.hasZeroSide, Bool.or_eq_false_iff, decide_eq_false_iff_not] at hz
    exact fun h => h.elim hz.1.1.1 hz.1.1.2
  simp only [configure, hsync, Compositor.setSize, guarded]
  rw [show (c.opened syncChannel).armed = c.armed from rfl]
  cases c.armed .queueSize with
  | some status => rfl
  | none =>
    simp only [updateQueue, onChannel, opened_find?, Queue.setSize, hsides, if_false, setQueue,
      opened_modifyChannel, Compositor.setFormat]
    rfl

theorem newReader_eq (c : Compositor) (p : OutputParams) :
    (c.opened (configuredChannel p)).newReader c.nextId 1 =
      match c.armed .newReader with
      | some status => (.error status, (c.opened (configuredChannel p)).disarm .newReader)
      | none => (.ok (), c.opened (readChannel p)) := by
  simp only [newReader, guarded]
  rw [show (c.opened (configuredChannel p)).armed = c.armed from rfl]
  cases c.armed .newReader with
  | some status => rfl
  | none =>
    simp only [onChannel, opened_find?, opened_modifyChannel]
    rfl

theorem listen_eq (c : Compositor) (p : OutputParams) :
    (c.opened (readChannel p)).newWaiter.2.listen c.nextId c.nextWaiter =
      c.heard ((c.nextSite p).channel .fresh) :=
  congrArg
    (fun d : Compositor => { d with
      waiters := c.waiters.insert c.nextWaiter .idle, nextWaiter := c.nextWaiter + 1 })
    (c.opened_modifyChannel (readChannel p) fun channel =>
      { channel with queue := channel.queue.listen c.nextWaiter })

theorem publish_eq {c : Compositor} (h : c.Unused) {p : OutputParams}
    (hz : p.hasZeroSide = false) :
    publish (c.heard ((c.nextSite p).channel .fresh)) c.nextId p =
      match c.armed .newDisplay, c.armed .transaction with
      | some status, _ => (.error (failed .newDisplay status),
          (c.heard ((c.nextSite p).channel .fresh)).disarm .newDisplay)
      | none, some status => (.error (failed .publication status),
          { (c.heard ((c.nextSite p).channel .fresh)).disarm .transaction with
            nextId := c.nextId + 2
            events := c.events ++ [.queueCreated c.nextId, .displayCreated (c.nextId + 1),
              .displayDestroyed (c.nextId + 1)] })
      | none, none => (.ok (c.nextId + 1), c.hosting p) := by
  simp only [publish, newDisplay_heard]
  cases c.armed .newDisplay with
  | some status => rfl
  | none =>
    simp only [applyTransaction_registered hz rfl]
    cases c.armed .transaction with
    | some status => simp only [destroyDisplay_registered h]
    | none => rfl

theorem newQueue_eq (c : Compositor) :
    c.newQueue =
      match c.armed .newQueue with
      | some status => (.error status, c.disarm .newQueue)
      | none => (.ok c.nextId, c.opened newChannel) := by
  simp only [newQueue, guarded]
  cases c.armed .newQueue <;> rfl

theorem attach_eq (c : Compositor) (p : OutputParams) :
    attach (c.opened (configuredChannel p)) c.nextId p =
      match c.armed .newReader with
      | some status => (.error (failed .newReader status),
          (c.opened (configuredChannel p)).disarm .newReader)
      | none =>
        match publish (c.heard ((c.nextSite p).channel .fresh)) c.nextId p with
        | (.error e, d) => (.error e, d.dropWaiter c.nextWaiter)
        | (.ok display, d) => (.ok { display, queue := c.nextId, waiter := c.nextWaiter
                                     holder := .empty, params := p }, d) := by
  simp only [attach, newReader_eq]
  cases c.armed .newReader with
  | some status => rfl
  | none =>
    rw [← listen_eq]
    rfl

/-- What is left to fail once a queue has its settings. -/
theorem attach_dropQueue {c : Compositor} (h : c.Unused) {p : OutputParams}
    (hz : p.hasZeroSide = false) :
    (match attach (c.opened (configuredChannel p)) c.nextId p with
      | (.error e, d) => (.error e, d.dropQueue c.nextId)
      | (.ok output, d) => (.ok output, d)) = c.setupOutcome p (c.failingFrom 3) := by
  have hwaiter : (c.waiters.insert c.nextWaiter .idle).erase c.nextWaiter = c.waiters := by
    rw [Registry.erase_insert_self, Registry.erase_of_absent h.waiter]
  rw [attach_eq]
  cases hreader : c.armed .newReader with
  | some status =>
    rw [failingFrom_armed rfl hreader]
    simp only
    rw [h.dropQueue (d := (c.opened (configuredChannel p)).disarm .newReader) rfl rfl rfl rfl]
    simp [setupOutcome, opened, disarm, failedAt, failed]
  | none =>
    rw [failingFrom_free rfl hreader]
    simp only [publish_eq h hz]
    cases hdisplay : c.armed .newDisplay with
    | some status =>
      rw [failingFrom_armed rfl hdisplay]
      simp only
      rw [h.dropQueue (d := ((c.heard ((c.nextSite p).channel .fresh)).disarm
        .newDisplay).dropWaiter c.nextWaiter) rfl rfl rfl rfl]
      simp [setupOutcome, dropWaiter, heard, opened, disarm, failedAt, failed, hwaiter]
    | none =>
      rw [failingFrom_free rfl hdisplay]
      cases htransaction : c.armed .transaction with
      | some status =>
        rw [failingFrom_armed rfl htransaction]
        simp only
        rw [h.dropQueue (d := ({ (c.heard ((c.nextSite p).channel .fresh)).disarm
          .transaction with
          nextId := c.nextId + 2
          events := c.events ++ [.queueCreated c.nextId, .displayCreated (c.nextId + 1),
            .displayDestroyed (c.nextId + 1)] } : Compositor).dropWaiter c.nextWaiter)
          rfl rfl rfl rfl]
        simp [setupOutcome, dropWaiter, heard, opened, disarm, failedAt, failed, hwaiter]
      | none =>
        rw [failingFrom_free rfl htransaction]
        rfl

theorem onNewQueue_eq {c : Compositor} (h : c.Unused) {p : OutputParams}
    (hz : p.hasZeroSide = false) : onNewQueue c p = c.setupOutcome p (c.failingFrom 1) := by
  simp only [onNewQueue, newQueue_eq]
  cases hqueue : c.armed .newQueue with
  | some status =>
    rw [failingFrom_armed rfl hqueue]
    simp [setupOutcome, failedAt, disarm, failed]
  | none =>
    rw [failingFrom_free rfl hqueue]
    simp only [configure_eq c hz]
    cases hsettings : c.armed .queueSize with
    | some status =>
      rw [failingFrom_armed rfl hsettings]
      simp only
      rw [h.dropQueue (d := (c.opened syncChannel).disarm .queueSize) rfl rfl rfl rfl]
      simp [setupOutcome, opened, disarm, failedAt, failed]
    | none =>
      rw [failingFrom_free rfl hsettings]
      exact attach_dropQueue h hz

/-- Setting up an output is a transaction: the first stage that is armed to fail decides. -/
theorem build_eq {c : Compositor} (h : c.Unused) (p : OutputParams) :
    build c p =
      if p.hasZeroSide then (.error (failed .geometry .badValue), c)
      else c.setupOutcome p c.failingStage? := by
  cases hz : p.hasZeroSide with
  | true => simp only [build, hz, if_true]
  | false =>
    rw [show c.failingStage? = c.failingFrom 0 from rfl]
    simp only [build, hz, Bool.false_eq_true, if_false, connect, guarded]
    cases hconnection : c.armed .connection with
    | some status =>
      rw [failingFrom_armed rfl hconnection]
      simp [setupOutcome, failedAt, disarm]
    | none =>
      rw [failingFrom_free rfl hconnection]
      exact onNewQueue_eq h hz

end VirtualOutput

end ScreenCapture
