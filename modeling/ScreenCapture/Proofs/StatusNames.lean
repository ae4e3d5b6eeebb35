import ScreenCapture.Proofs.Accounting
import ScreenCapture.Proofs.Capturing

namespace ScreenCapture

namespace Status

/-- No two codes have a name of their own in common. -/
theorem names_injective : ∀ a ∈ names, ∀ b ∈ names, a.2 = b.2 → a.1 = b.1 := by
  decide

theorem mem_names {s : Status} (h : s.name ≠ .unmapped) : (s.code, s.name) ∈ names := by
  cases hl : names.lookup s.code with
  | none =>
    have hn : s.name = .unmapped := by rw [name, hl]; rfl
    exact absurd hn h
  | some n =>
    have hn : s.name = n := by rw [name, hl]; rfl
    rw [hn]
    exact Registry.mem_of_lookup hl

theorem eq_of_name {s t : Status} (h : s.name = t.name) (hs : s.name ≠ .unmapped) : s = t := by
  have ht : t.name ≠ .unmapped := fun ht => hs (h.trans ht)
  have hcode := names_injective _ (mem_names hs) _ (mem_names ht) h
  cases s
  cases t
  exact congrArg Status.mk hcode

/-- Of all statuses of the same name the same one. -/
def veiled (s : Status) : Status := if s.name = .unmapped then ⟨1⟩ else s

@[simp]
theorem name_veiled (s : Status) : s.veiled.name = s.name := by
  unfold veiled
  split
  next h =>
    rw [h]
    decide
  next => rfl

theorem veiled_eq_iff {s t : Status} : s.veiled = t.veiled ↔ s.name = t.name := by
  constructor
  · intro h
    rw [← s.name_veiled, h, t.name_veiled]
  · intro h
    by_cases hs : s.name = .unmapped
    · rw [veiled, veiled, if_pos hs, if_pos (h.symm.trans hs)]
    · rw [eq_of_name h hs]

/-- The codes that tell a lost connection all have names of their own. -/
theorem isConnectionFailure_iff {s : Status} :
    s.isConnectionFailure = true ↔ s.name = .deadObject ∨ s.name = .noInit ∨
      s.name = .failedTransaction ∨ s.name = .unknownTransaction := by
  constructor
  · intro h
    simp only [isConnectionFailure, Bool.or_eq_true, decide_eq_true_eq] at h
    obtain ((rfl | rfl) | rfl) | rfl := h <;> decide
  · rintro (h | h | h | h)
    · rw [eq_of_name (t := deadObject) (h.trans (by decide)) (by rw [h]; decide)]
      decide
    · rw [eq_of_name (t := noInit) (h.trans (by decide)) (by rw [h]; decide)]
      decide
    · rw [eq_of_name (t := failedTransaction) (h.trans (by decide)) (by rw [h]; decide)]
      decide
    · rw [eq_of_name (t := unknownTransaction) (h.trans (by decide)) (by rw [h]; decide)]
      decide

theorem isConnectionFailure_veiled (s : Status) :
    s.veiled.isConnectionFailure = s.isConnectionFailure := by
  rw [Bool.eq_iff_iff, isConnectionFailure_iff, isConnectionFailure_iff, name_veiled]

/-- The statuses with which queues and displays answer of themselves. -/
@[simp]
theorem veiled_named : badValue.veiled = badValue ∧ invalidOperation.veiled = invalidOperation ∧
    nameNotFound.veiled = nameNotFound ∧ alreadyExists.veiled = alreadyExists ∧
    deadObject.veiled = deadObject ∧ notEnoughData.veiled = notEnoughData := by
  decide

end Status

/-- An answer in which every status stands for all of its name. -/
def Plain {α : Type} (r : Except Status α) : Prop := r.mapError Status.veiled = r

theorem Plain.error {α : Type} {status : Status} (h : Plain (α := α) (.error status)) :
    status.veiled = status :=
  Except.error.inj h

theorem Queue.disableAsync_plain (q : Queue) : Plain q.disableAsync := by
  unfold disableAsync
  split <;> simp [Plain, Except.mapError]

theorem Queue.setSize_plain (q : Queue) (width height : UInt32) :
    Plain (q.setSize width height) := by
  unfold setSize
  split <;> simp [Plain, Except.mapError]

theorem Queue.setFormat_plain (q : Queue) (format : FormatCode) : Plain (q.setFormat format) := by
  unfold setFormat
  split <;> simp [Plain, Except.mapError]

theorem Queue.attachReader_plain (q : Queue) (maxLocked : Nat) :
    Plain (q.attachReader maxLocked) := by
  unfold attachReader
  split
  next => simp [Plain, Except.mapError]
  next => split <;> simp [Plain, Except.mapError]

theorem Reader.lock_plain (r : Reader) (q : Queue) : Plain (r.lock q) := by
  unfold lock
  split
  next => simp [Plain, Except.mapError]
  next => split <;> simp [Plain, Except.mapError]

theorem Reader.unlock_plain (r : Reader) (q : Queue) :
    Plain ((r.unlock q).map fun after => ((), after)) := by
  unfold unlock
  split <;> simp [Plain, Except.mapError, Except.map]

namespace Compositor

/-- The compositor with every armed failure replaced by one of the same name. -/
def veiled (c : Compositor) : Compositor :=
  { c with armed := fun point => (c.armed point).map Status.veiled }

/-- The outcome of a call with every status in it replaced by one of the same name. -/
def veiledOutcome {α : Type} (r : Except Status α × Compositor) : Except Status α × Compositor :=
  r.map (Except.mapError Status.veiled) veiled

@[simp]
theorem veiledOutcome_error {α : Type} (status : Status) (c : Compositor) :
    veiledOutcome (α := α) (.error status, c) = (.error status.veiled, c.veiled) := rfl

@[simp]
theorem veiledOutcome_ok {α : Type} (a : α) (c : Compositor) :
    veiledOutcome (.ok a, c) = (.ok a, c.veiled) := rfl

theorem disarm_veiled (c : Compositor) (point : FailPoint) :
    c.veiled.disarm point = (c.disarm point).veiled := by
  simp only [disarm, veiled, Compositor.mk.injEq, true_and, and_true]
  funext other
  split <;> rfl

theorem arm_veiled (c : Compositor) (point : FailPoint) (status : Status) :
    c.veiled.arm point status.veiled = (c.arm point status).veiled := by
  simp only [arm, veiled, Compositor.mk.injEq, true_and, and_true]
  funext other
  split <;> rfl

theorem guarded_veiled {α : Type} {c : Compositor}
    {call : Compositor → Except Status α × Compositor}
    (h : call c.veiled = veiledOutcome (call c)) (point : FailPoint) :
    c.veiled.guarded point call = veiledOutcome (c.guarded point call) := by
  have ha : c.veiled.armed point = (c.armed point).map Status.veiled := rfl
  simp only [guarded, ha]
  cases c.armed point with
  | some status => simp [disarm_veiled]
  | none => exact h

theorem onChannel_veiled {α : Type} {c : Compositor} {id : QueueId}
    {call call' : Channel → Except Status α × Compositor}
    (h : ∀ channel, call' channel = veiledOutcome (call channel)) :
    c.veiled.onChannel id call' = veiledOutcome (c.onChannel id call) := by
  have hc : c.veiled.channels = c.channels := rfl
  simp only [onChannel, hc]
  cases c.channels.find? id with
  | none => simp
  | some channel => exact h channel

theorem updateQueue_veiled (c : Compositor) (id : QueueId) {change : Queue → Except Status Queue}
    (h : ∀ q, Plain (change q)) :
    c.veiled.updateQueue id change = veiledOutcome (c.updateQueue id change) := by
  refine onChannel_veiled fun channel => ?_
  have hplain := h channel.queue
  cases hq : change channel.queue with
  | error status =>
    rw [hq] at hplain
    simp [hplain.error]
  | ok queue => rfl

theorem onReader_veiled {α : Type} (c : Compositor) (id : QueueId)
    {call : Reader → Queue → Except Status (α × Reader × Queue)}
    (h : ∀ reader queue, Plain (call reader queue)) :
    c.veiled.onReader id call = veiledOutcome (c.onReader id call) := by
  refine onChannel_veiled fun channel => ?_
  cases channel.reader with
  | none => simp
  | some reader =>
    have hplain := h reader channel.queue
    simp only
    cases hr : call reader channel.queue with
    | error status =>
      rw [hr] at hplain
      simp [hplain.error]
    | ok after => rfl

theorem connect_veiled (c : Compositor) : c.veiled.connect = veiledOutcome c.connect :=
  guarded_veiled rfl .connection

theorem panel_veiled (c : Compositor) (id : Int32) :
    c.veiled.panel id = veiledOutcome (c.panel id) := by
  refine guarded_veiled ?_ .panel
  have hc : c.veiled.panels = c.panels := rfl
  simp only [hc]
  cases c.panels.find? id with
  | some panel => rfl
  | none => simp

theorem newQueue_veiled (c : Compositor) : c.veiled.newQueue = veiledOutcome c.newQueue :=
  guarded_veiled rfl .newQueue

theorem disableAsync_veiled (c : Compositor) (id : QueueId) :
    c.veiled.disableAsync id = veiledOutcome (c.disableAsync id) :=
  c.updateQueue_veiled id Queue.disableAsync_plain

theorem setSize_veiled (c : Compositor) (id : QueueId) (width height : UInt32) :
    c.veiled.setSize id width height = veiledOutcome (c.setSize id width height) :=
  guarded_veiled (c.updateQueue_veiled id fun q => q.setSize_plain width height) .queueSize

theorem setFormat_veiled (c : Compositor) (id : QueueId) (format : FormatCode) :
    c.veiled.setFormat id format = veiledOutcome (c.setFormat id format) :=
  c.updateQueue_veiled id fun q => q.setFormat_plain format

theorem newReader_veiled (c : Compositor) (id : QueueId) (maxLocked : Nat) :
    c.veiled.newReader id maxLocked = veiledOutcome (c.newReader id maxLocked) := by
  refine guarded_veiled (onChannel_veiled fun channel => ?_) .newReader
  have hplain := channel.queue.attachReader_plain maxLocked
  cases hq : channel.queue.attachReader maxLocked with
  | error status =>
    rw [hq] at hplain
    simp [hplain.error]
  | ok queue => rfl

theorem lock_veiled (c : Compositor) (id : QueueId) :
    c.veiled.lock id = veiledOutcome (c.lock id) :=
  guarded_veiled (c.onReader_veiled id Reader.lock_plain) .lock

theorem unlock_veiled (c : Compositor) (id : QueueId) :
    c.veiled.unlock id = veiledOutcome (c.unlock id) :=
  c.onReader_veiled id Reader.unlock_plain

theorem newDisplay_veiled (c : Compositor) : c.veiled.newDisplay = veiledOutcome c.newDisplay :=
  guarded_veiled rfl .newDisplay

theorem reap_veiled (c : Compositor) (id : QueueId) : c.veiled.reap id = (c.reap id).veiled := by
  have hc : c.veiled.channels = c.channels := rfl
  have hheld (channel : Channel) : c.veiled.isHeld id channel = c.isHeld id channel := rfl
  simp only [reap, hc, hheld]
  cases c.channels.find? id with
  | none => rfl
  | some channel =>
    simp only
    split <;> rfl

theorem stopRenderer_veiled (c : Compositor) (r : Renderer) :
    c.veiled.stopRenderer r = (c.stopRenderer r).veiled := by
  unfold stopRenderer
  cases r.phase <;> rfl

theorem applyTransaction_veiled (c : Compositor) (token : DisplayToken) (surface : QueueId)
    (p : Projection) :
    c.veiled.applyTransaction token surface p =
      veiledOutcome (c.applyTransaction token surface p) := by
  refine guarded_veiled ?_ .transaction
  have hd : c.veiled.displays = c.displays := rfl
  have hc : c.veiled.channels = c.channels := rfl
  simp only [hd, hc]
  split
  next => simp
  next =>
    cases c.displays.find? token with
    | none => simp
    | some display =>
      simp only
      split
      next => simp
      next =>
        cases display.renderer with
        | none => rfl
        | some r =>
          simp only [stopRenderer_veiled]
          refine Prod.ext rfl ?_
          exact congrArg (·.record (.transactionApplied token))
            (reap_veiled ((c.stopRenderer r).present token surface p) r.surface)

theorem destroyDisplay_veiled (c : Compositor) (token : DisplayToken) :
    c.veiled.destroyDisplay token = (c.destroyDisplay token).veiled := by
  have hd : c.veiled.displays = c.displays := rfl
  simp only [destroyDisplay, hd]
  cases c.displays.find? token with
  | none => rfl
  | some display =>
    cases hr : display.renderer with
    | none => simp only [hr]; rfl
    | some r =>
      simp only [hr]
      let erased : Compositor := { c with displays := c.displays.erase token }
      have hstop : erased.veiled.stopRenderer r = (erased.stopRenderer r).veiled :=
        stopRenderer_veiled erased r
      have hreap := reap_veiled (erased.stopRenderer r) r.surface
      rw [← hstop] at hreap
      exact congrArg (·.record (.displayDestroyed token)) hreap

theorem dropQueue_veiled (c : Compositor) (id : QueueId) :
    c.veiled.dropQueue id = (c.dropQueue id).veiled := by
  have hproducer (c : Compositor) : c.veiled.dropProducer id = (c.dropProducer id).veiled :=
    reap_veiled (c.modifyChannel id fun channel => { channel with producerHeld := false }) id
  have hendpoint (c : Compositor) : c.veiled.dropEndpoint id = (c.dropEndpoint id).veiled :=
    reap_veiled (c.modifyChannel id fun channel => { channel with endpointHeld := false }) id
  have hreader (c : Compositor) : c.veiled.dropReader id = (c.dropReader id).veiled :=
    reap_veiled (c.modifyChannel id _) id
  rw [dropQueue, hproducer, hendpoint, hreader, dropQueue]

theorem startPool_veiled (c : Compositor) : c.veiled.startPool = c.startPool.veiled := by
  have hc : c.veiled.poolStarted = c.poolStarted := rfl
  simp only [startPool, hc]
  split <;> rfl

theorem takeNotice?_veiled (c : Compositor) (waiter : WaiterId) :
    c.veiled.takeNotice? waiter = (c.takeNotice? waiter).map veiled := by
  have hc : c.veiled.waiters = c.waiters := rfl
  simp only [takeNotice?, hc]
  cases c.waiters.find? waiter with
  | none => rfl
  | some w => cases hw : w.take? <;> simp [hw, veiled]

theorem beginFrame_veiled (c : Compositor) (token : DisplayToken) :
    c.veiled.beginFrame token = (c.beginFrame token).veiled := by
  have hr : c.veiled.renderer? token = c.renderer? token := rfl
  have hq (id : QueueId) : c.veiled.queue? id = c.queue? id := rfl
  simp only [beginFrame, hr, hq]
  split
  next surface _ _ =>
    cases c.queue? surface with
    | none => rfl
    | some queue => simp only; cases queue.slot <;> rfl
  next => rfl

theorem commitFrame_veiled (c : Compositor) (token : DisplayToken) :
    c.veiled.commitFrame token = (c.commitFrame token).veiled := by
  have hr : c.veiled.renderer? token = c.renderer? token := rfl
  have hq (id : QueueId) : c.veiled.queue? id = c.queue? id := rfl
  simp only [commitFrame, hr, hq]
  split
  next surface projection canvas _ =>
    cases c.queue? surface with
    | none => rfl
    | some queue =>
      simp only
      cases queue.commit canvas (.mk fun _ => projection.paint canvas canvas.blank) <;> rfl
  next => rfl

theorem announceFrame_veiled (c : Compositor) (token : DisplayToken) :
    c.veiled.announceFrame token = (c.announceFrame token).veiled := by
  have hr : c.veiled.renderer? token = c.renderer? token := rfl
  simp only [announceFrame, hr]
  split <;> rfl

theorem renderStep_veiled (c : Compositor) (token : DisplayToken) :
    c.veiled.renderStep token = (c.renderStep token).veiled := by
  have hr : c.veiled.renderer? token = c.renderer? token := rfl
  simp only [renderStep, hr]
  split
  next => exact c.beginFrame_veiled token
  next => exact c.commitFrame_veiled token
  next => exact c.announceFrame_veiled token
  next => rfl
  next => rfl

theorem renderAll_veiled (c : Compositor) : c.veiled.renderAll = c.renderAll.veiled := by
  have hk : c.veiled.displays = c.displays := rfl
  simp only [renderAll, hk]
  rw [List.foldl_hom veiled beginFrame_veiled, List.foldl_hom veiled commitFrame_veiled,
    List.foldl_hom veiled announceFrame_veiled]

theorem awaitNotice_veiled (c : Compositor) (waiter : WaiterId) (arrives : Bool) :
    c.veiled.awaitNotice waiter arrives = (c.awaitNotice waiter arrives).map id veiled := by
  simp only [awaitNotice, takeNotice?_veiled]
  cases c.takeNotice? waiter with
  | some d => rfl
  | none =>
    simp only [Option.map_none]
    cases arrives with
    | false => rfl
    | true =>
      simp only [if_true, renderAll_veiled, takeNotice?_veiled]
      cases c.renderAll.takeNotice? waiter <;> rfl

/-- A lost connection is told by the name of the status. -/
theorem probe_veiled (c : Compositor) (displayId : Int32) :
    c.veiled.probe displayId = (c.probe displayId).map id veiled := by
  simp only [probe, panel_veiled]
  generalize c.panel displayId = answer
  obtain ⟨status | panel, d⟩ := answer
  · simp only [veiledOutcome_error, Status.isConnectionFailure_veiled, Status.name_veiled]
    split <;> rfl
  · rfl

end Compositor

namespace FrameHolder

theorem lockNext_veiled (holder : FrameHolder) (queue : QueueId) (c : Compositor) :
    holder.lockNext (Compositor.source queue) c.veiled =
      (holder.lockNext (Compositor.source queue) c).map id (Prod.map id Compositor.veiled) := by
  simp only [lockNext, Compositor.source, Compositor.lock_veiled]
  split
  next => rfl
  next =>
    generalize c.lock queue = locked
    obtain ⟨status | buffer, d⟩ := locked
    · simp
    · simp only [Compositor.veiledOutcome_ok]
      cases buffer.size? with
      | none => simp [Compositor.unlock_veiled, Compositor.veiledOutcome]
      | some size => rfl

theorem unlock_veiled (holder : FrameHolder) (queue : QueueId) (c : Compositor) :
    holder.unlock (Compositor.source queue) c.veiled =
      (holder.unlock (Compositor.source queue) c).map id (Prod.map id Compositor.veiled) := by
  simp only [unlock, Compositor.source, Compositor.unlock_veiled]
  cases holder.held <;> rfl

end FrameHolder

namespace VirtualOutput

open Compositor

theorem configure_veiled (c : Compositor) (queue : QueueId) (p : OutputParams) :
    configure c.veiled queue p = veiledOutcome (configure c queue p) := by
  simp only [configure, disableAsync_veiled]
  generalize c.disableAsync queue = answer
  obtain ⟨_ | _, d⟩ := answer
  · rfl
  · simp only [veiledOutcome_ok, setSize_veiled]
    generalize d.setSize queue p.desiredWidth p.desiredHeight = answer
    obtain ⟨_ | _, e⟩ := answer
    · rfl
    · exact e.setFormat_veiled queue pixelFormat

theorem publish_veiled (c : Compositor) (queue : QueueId) (p : OutputParams) :
    publish c.veiled queue p = (publish c queue p).map id veiled := by
  simp only [publish, newDisplay_veiled]
  generalize c.newDisplay = answer
  obtain ⟨_ | token, d⟩ := answer
  · simp [failed]
  · simp only [veiledOutcome_ok, applyTransaction_veiled]
    generalize d.applyTransaction token queue p.projection = answer
    obtain ⟨_ | _, e⟩ := answer
    · simp [failed, destroyDisplay_veiled]
    · rfl

theorem attach_veiled (c : Compositor) (queue : QueueId) (p : OutputParams) :
    attach c.veiled queue p = (attach c queue p).map id veiled := by
  simp only [attach, newReader_veiled]
  generalize c.newReader queue 1 = answer
  obtain ⟨_ | _, d⟩ := answer
  · simp [failed]
  · have hheard : d.veiled.newWaiter.2.listen queue d.veiled.newWaiter.1 =
        (d.newWaiter.2.listen queue d.newWaiter.1).veiled := rfl
    simp only [veiledOutcome_ok, hheard, publish_veiled]
    generalize publish (d.newWaiter.2.listen queue d.newWaiter.1) queue p = answer
    obtain ⟨_ | _, e⟩ := answer <;> rfl

theorem onNewQueue_veiled (c : Compositor) (p : OutputParams) :
    onNewQueue c.veiled p = (onNewQueue c p).map id veiled := by
  simp only [onNewQueue, newQueue_veiled]
  generalize c.newQueue = answer
  obtain ⟨_ | queue, d⟩ := answer
  · simp [failed]
  · simp only [veiledOutcome_ok, configure_veiled]
    generalize configure d queue p = answer
    obtain ⟨_ | _, e⟩ := answer
    · simp [failed, dropQueue_veiled]
    · simp only [veiledOutcome_ok, attach_veiled]
      generalize attach e queue p = answer
      obtain ⟨_ | _, e⟩ := answer
      · simp [dropQueue_veiled]
      · rfl

theorem build_veiled (c : Compositor) (p : OutputParams) :
    build c.veiled p = (build c p).map id veiled := by
  simp only [build, connect_veiled]
  split
  next => rfl
  next =>
    generalize c.connect = answer
    obtain ⟨_ | _, d⟩ := answer
    · simp
    · exact onNewQueue_veiled d p

theorem tearDown_veiled (o : VirtualOutput) (c : Compositor) :
    o.tearDown c.veiled = (o.tearDown c).veiled := by
  have hdisconnect (d : Compositor) : d.veiled.disconnect o.queue = (d.disconnect o.queue).veiled :=
    rfl
  simp only [tearDown, FrameHolder.unlock_veiled, Prod.map, destroyDisplay_veiled, hdisconnect,
    dropQueue_veiled]
  rfl

end VirtualOutput

namespace OutputManager

variable (m : OutputManager) (c : Compositor) (p : OutputParams)

theorem destroy_veiled : m.destroy c.veiled = (m.destroy c).map id Compositor.veiled := by
  simp only [destroy, VirtualOutput.tearDown_veiled]
  cases m.output <;> rfl

theorem create_veiled :
    m.create c.veiled p = (m.create c p).map id (Prod.map id Compositor.veiled) := by
  simp only [create, destroy_veiled, Prod.map, VirtualOutput.build_veiled]
  generalize VirtualOutput.build (m.destroy c).2 p = answer
  obtain ⟨_ | _, d⟩ := answer <;> rfl

theorem reconfigure_veiled :
    m.reconfigure c.veiled p = (m.reconfigure c p).map id (Prod.map id Compositor.veiled) := by
  simp only [reconfigure, destroy_veiled]
  exact create_veiled (m.destroy c).1 (m.destroy c).2 p

theorem lockNext_veiled : m.lockNext c.veiled =
    (m.lockNext c).map (Prod.map id (Prod.map id Compositor.veiled)) := by
  simp only [lockNext, FrameHolder.lockNext_veiled]
  cases m.output <;> rfl

theorem unlock_veiled :
    m.unlock c.veiled = (m.unlock c).map (Prod.map id (Prod.map id Compositor.veiled)) := by
  simp only [unlock, FrameHolder.unlock_veiled]
  cases m.output <;> rfl

theorem frame?_veiled : m.frame? c.veiled = m.frame? c := rfl

end OutputManager

namespace Controller

variable (k : Controller) (c : Compositor)

theorem setRealProbed_veiled : k.setRealProbed c.veiled =
    (k.setRealProbed c).map id (Prod.map id Compositor.veiled) := by
  simp only [setRealProbed, Compositor.probe_veiled]
  generalize c.probe k.displayId = answer
  obtain ⟨_ | _, d⟩ := answer <;> rfl

theorem apply_veiled :
    k.apply c.veiled = (k.apply c).map id (Prod.map id Compositor.veiled) := by
  simp only [apply, OutputManager.reconfigure_veiled]
  split
  next => rfl
  next =>
    generalize k.manager.reconfigure c k.params = answer
    obtain ⟨_ | _, m, d⟩ := answer <;> rfl

theorem beginWait_veiled (operation : CaptureOperation) : k.beginWait operation c.veiled =
    (k.beginWait operation c).map id (Prod.map id Compositor.veiled) := by
  simp only [beginWait, OutputManager.unlock_veiled]
  split
  next => rfl
  next =>
    split
    next => rfl
    next =>
      cases k.manager.unlock c with
      | none => simp only [Option.map_none]; cases k.manager.output <;> rfl
      | some after =>
        obtain ⟨_, m, d⟩ := after
        simp only [Option.map_some, Prod.map, id]
        cases m.output <;> rfl

theorem waitAs_veiled (operation : CaptureOperation) (arrives : Bool) :
    k.waitAs operation arrives c.veiled =
      (k.waitAs operation arrives c).map id (Prod.map id Compositor.veiled) := by
  simp only [waitAs, beginWait_veiled]
  generalize k.beginWait operation c = answer
  obtain ⟨_ | _ | waiter, k, d⟩ := answer
  · rfl
  · rfl
  · simp only [Prod.map, id, Compositor.awaitNotice_veiled]
    generalize d.awaitNotice waiter arrives = noticed
    obtain ⟨_ | _, e⟩ := noticed <;> rfl

theorem consume_veiled :
    k.consume c.veiled = (k.consume c).map id (Prod.map id Compositor.veiled) := by
  simp only [consume, OutputManager.lockNext_veiled]
  split
  next => rfl
  next =>
    cases k.manager.lockNext c with
    | none => rfl
    | some after =>
      obtain ⟨_ | _, m, d⟩ := after
      · rfl
      · simp only [Option.map_some, Prod.map, id, OutputManager.frame?_veiled]
        cases m.frame? d <;> rfl

theorem release_veiled : k.release c.veiled = (k.release c).map id Compositor.veiled := by
  simp only [release, OutputManager.destroy_veiled]
  split <;> rfl

end Controller

theorem Operation.perform_veiled (op : Operation) (k : Controller) (c : Compositor) :
    op.perform k c.veiled = (op.perform k c).map id (Prod.map id Compositor.veiled) := by
  cases op with
  | setDesired | setReal => rfl
  | apply => simp only [perform, k.apply_veiled]; rfl
  | wait => simp only [perform, Controller.waitForFrame, k.waitAs_veiled]; rfl
  | waitTimeout arrives =>
    simp only [perform, Controller.waitForFrameTimeout, k.waitAs_veiled]; rfl
  | consume => simp only [perform, k.consume_veiled]; rfl
  | release => simp only [perform, k.release_veiled]; rfl

/-- Output managers and captures over one compositor, by their numbers. -/
structure World where
  compositor : Compositor
  managers : Nat → OutputManager
  captures : Nat → Controller

namespace World

inductive Request
  | arm (point : FailPoint) (status : Status)
  | startPool
  | render (token : DisplayToken)
  | probe (displayId : Int32)
  | create (manager : Nat) (p : OutputParams)
  | reconfigure (manager : Nat) (p : OutputParams)
  | destroy (manager : Nat)
  | lock (manager : Nat)
  | unlock (manager : Nat)
  | await (manager : Nat) (arrives : Bool)
  | newCapture (capture : Nat) (displayId : Int32)
  | operate (capture : Nat) (op : Operation)
  | setRealProbed (capture : Nat)
  /-- A wait that others come in between. -/
  | beginWait (capture : Nat) (operation : CaptureOperation)
  | endWait (capture : Nat) (waiter : WaiterId)

inductive Response
  | done
  | probed (result : Except CaptureError DisplayInfo)
  | told (result : Except CaptureError Unit)
  | locked (result : Option (Except CaptureError LockedBuffer)) (frame : Option Frame)
  | unlocked (result : Option Bool)
  | noticed (result : Bool)
  | answered (answer : Answer)
  | waiting (result : Except CaptureError (Option WaiterId))

/-- Replaces a manager, and the compositor with it. -/
def withManager (w : World) (index : Nat) (after : OutputManager × Compositor) : World :=
  { w with
    compositor := after.2
    managers := fun other => if other = index then after.1 else w.managers other }

def withCapture (w : World) (index : Nat) (after : Controller × Compositor) : World :=
  { w with
    compositor := after.2
    captures := fun other => if other = index then after.1 else w.captures other }

def step (w : World) : Request → Response × World
  | .arm point status => (.done, { w with compositor := w.compositor.arm point status })
  | .startPool => (.done, { w with compositor := w.compositor.startPool })
  | .render token => (.done, { w with compositor := w.compositor.renderStep token })
  | .probe displayId =>
    let (r, compositor) := w.compositor.probe displayId
    (.probed r, { w with compositor })
  | .create index p =>
    let (r, after) := (w.managers index).create w.compositor p
    (.told r, w.withManager index after)
  | .reconfigure index p =>
    let (r, after) := (w.managers index).reconfigure w.compositor p
    (.told r, w.withManager index after)
  | .destroy index => (.done, w.withManager index ((w.managers index).destroy w.compositor))
  | .lock index =>
    match (w.managers index).lockNext w.compositor with
    | none => (.locked none none, w)
    | some (r, after) => (.locked (some r) (after.1.frame? after.2), w.withManager index after)
  | .unlock index =>
    match (w.managers index).unlock w.compositor with
    | none => (.unlocked none, w)
    | some (r, after) => (.unlocked (some r), w.withManager index after)
  | .await index arrives =>
    match (w.managers index).output with
    | none => (.done, w)
    | some o =>
      let (r, compositor) := w.compositor.awaitNotice o.waiter arrives
      (.noticed r, { w with compositor })
  | .newCapture index displayId => (.done, w.withCapture index (.new displayId, w.compositor))
  | .operate index op =>
    let (answer, after) := op.perform (w.captures index) w.compositor
    (.answered answer, w.withCapture index after)
  | .setRealProbed index =>
    let (r, after) := (w.captures index).setRealProbed w.compositor
    (.told r, w.withCapture index after)
  | .beginWait index operation =>
    let (r, after) := (w.captures index).beginWait operation w.compositor
    (.waiting r, w.withCapture index after)
  | .endWait index waiter =>
    match w.compositor.takeNotice? waiter with
    | none => (.noticed false, w)
    | some compositor =>
      (.noticed true, w.withCapture index ((w.captures index).noteFrame, compositor))

/-- Every response on the way, and what there is after it. -/
def trace : List Request → World → List (Response × World)
  | [], _ => []
  | a :: rest, w => w.step a :: trace rest (w.step a).2

/-- Nothing differs but the codes of armed failures, of which the names are the same. -/
structure Alike (w v : World) : Prop where
  compositor : v.compositor = { w.compositor with armed := v.compositor.armed }
  armed (point : FailPoint) :
    (v.compositor.armed point).map Status.name = (w.compositor.armed point).map Status.name
  managers : v.managers = w.managers
  captures : v.captures = w.captures

/-- The same request, or the same point is armed with a status of the same name. -/
inductive Request.Alike : Request → Request → Prop
  | same (a : Request) : Alike a a
  | armed (point : FailPoint) {s t : Status} : s.name = t.name →
      Alike (.arm point s) (.arm point t)

def veiled (w : World) : World := { w with compositor := w.compositor.veiled }

def Request.veiled : Request → Request
  | .arm point status => .arm point status.veiled
  | other => other

theorem Request.Alike.veiled_eq {a b : Request} (h : a.Alike b) : a.veiled = b.veiled := by
  cases h with
  | same => rfl
  | armed point hname => exact congrArg (Request.arm point) (Status.veiled_eq_iff.mpr hname)

theorem alike_of_veiled_eq {w v : World} (h : w.veiled = v.veiled) : w.Alike v := by
  obtain ⟨hcompositor, hmanagers, hcaptures⟩ := World.mk.inj h
  refine ⟨?_, fun point => ?_, hmanagers.symm, hcaptures.symm⟩
  · calc v.compositor = { v.compositor.veiled with armed := v.compositor.armed } := rfl
      _ = { w.compositor.veiled with armed := v.compositor.armed } := by rw [hcompositor]
      _ = { w.compositor with armed := v.compositor.armed } := rfl
  · have harmed : (w.compositor.armed point).map Status.veiled =
        (v.compositor.armed point).map Status.veiled :=
      congrFun (congrArg Compositor.armed hcompositor) point
    have hnames := congrArg (Option.map Status.name) harmed
    simpa [Function.comp_def] using hnames.symm

theorem step_veiled (w : World) (a : Request) :
    w.veiled.step a.veiled = (w.step a).map id veiled := by
  cases a with
  | arm point status =>
    simp only [Request.veiled, step, veiled, w.compositor.arm_veiled]
    rfl
  | startPool => simp only [Request.veiled, step, veiled, w.compositor.startPool_veiled]; rfl
  | render token => simp only [Request.veiled, step, veiled, w.compositor.renderStep_veiled]; rfl
  | probe displayId => simp only [Request.veiled, step, veiled, w.compositor.probe_veiled]; rfl
  | create index p => simp only [Request.veiled, step, veiled, OutputManager.create_veiled]; rfl
  | reconfigure index p =>
    simp only [Request.veiled, step, veiled, OutputManager.reconfigure_veiled]
    rfl
  | destroy index => simp only [Request.veiled, step, veiled, OutputManager.destroy_veiled]; rfl
  | lock index =>
    simp only [Request.veiled, step, veiled, OutputManager.lockNext_veiled]
    cases (w.managers index).lockNext w.compositor <;> rfl
  | unlock index =>
    simp only [Request.veiled, step, veiled, OutputManager.unlock_veiled]
    cases (w.managers index).unlock w.compositor <;> rfl
  | await index arrives =>
    simp only [Request.veiled, step, veiled, w.compositor.awaitNotice_veiled]
    cases (w.managers index).output <;> rfl
  | newCapture index displayId => rfl
  | operate index op => simp only [Request.veiled, step, veiled, op.perform_veiled]; rfl
  | setRealProbed index =>
    simp only [Request.veiled, step, veiled, Controller.setRealProbed_veiled]
    rfl
  | beginWait index operation =>
    simp only [Request.veiled, step, veiled, Controller.beginWait_veiled]
    rfl
  | endWait index waiter =>
    simp only [Request.veiled, step, veiled, w.compositor.takeNotice?_veiled]
    cases w.compositor.takeNotice? waiter <;> rfl

theorem step_alike {w v : World} {a b : Request} (hw : w.veiled = v.veiled) (ha : a.Alike b) :
    (w.step a).1 = (v.step b).1 ∧ (w.step a).2.veiled = (v.step b).2.veiled := by
  have hstep := w.step_veiled a
  rw [hw, ha.veiled_eq, v.step_veiled b] at hstep
  obtain ⟨hresponse, hafter⟩ := Prod.mk.inj hstep
  exact ⟨hresponse.symm, hafter.symm⟩

/-- Two runs in which the same points are armed with statuses of the same names cannot be told from
each other: at every step the responses are the same, and all of the compositor, the managers and
the captures but the codes that are still armed. -/
theorem codes_hidden (w : World) {as bs : List Request} (h : List.Forall₂ Request.Alike as bs) :
    List.Forall₂ (fun x y => x.1 = y.1 ∧ x.2.Alike y.2) (trace as w) (trace bs w) := by
  have hrun (w v : World) (hw : w.veiled = v.veiled) :
      List.Forall₂ (fun x y => x.1 = y.1 ∧ x.2.Alike y.2) (trace as w) (trace bs v) := by
    induction h generalizing w v with
    | nil => exact .nil
    | cons ha _ ih =>
      obtain ⟨hresponse, hafter⟩ := step_alike hw ha
      exact .cons ⟨hresponse, alike_of_veiled_eq hafter⟩ (ih _ _ hafter)
  exact hrun w w rfl

/-- Two codes without a name, armed before a set-up, before a lock, and before a panel is asked. -/
theorem codes_hidden_unmapped :
    let w : World := ⟨.standard, fun _ => .empty, fun _ => .new 0⟩
    let p : OutputParams := ⟨4, 4, .rotation0, 4, 4⟩
    let requests (s : Status) : List Request := [.arm .newDisplay s, .create 0 p, .create 0 p,
      .arm .lock s, .await 0 true, .lock 0, .arm .panel s, .setRealProbed 0]
    List.Forall₂ (fun x y => x.1 = y.1 ∧ x.2.Alike y.2) (trace (requests ⟨-5⟩) w)
      (trace (requests ⟨-71⟩) w) := by
  intro w p requests
  have hname : (⟨-5⟩ : Status).name = (⟨-71⟩ : Status).name := by decide
  exact codes_hidden w (.cons (.armed _ hname) (.cons (.same _) (.cons (.same _)
    (.cons (.armed _ hname) (.cons (.same _) (.cons (.same _) (.cons (.armed _ hname)
      (.cons (.same _) .nil))))))))

end World

end ScreenCapture
