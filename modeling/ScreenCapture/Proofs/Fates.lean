import ScreenCapture.Proofs.Atomicity
import ScreenCapture.Proofs.Ledger

namespace ScreenCapture

/-- What a turn makes of a queue, before it is released if nobody holds it any more. -/
inductive Channel.Turned (id : QueueId) (channel : Channel) : Studio.Turn → Channel → Prop
  | untouched {t} : Turned id channel t channel
  | stepped {call reply after} : call.isOn id = true → channel.Step call reply after →
      Turned id channel (.call call) after
  | listened {t waiter} :
      Turned id channel t { channel with queue := channel.queue.listen waiter }
  | letGo {t} (producerHeld endpointHeld : Bool) :
      Turned id channel t { channel with producerHeld, endpointHeld }
  /-- The renderer of a display that shows it is stopped. -/
  | abandoned {t} : Turned id channel t { channel with queue := channel.queue.disconnect }
  /-- A frame that was drawn before is queued. -/
  | queued {t} (frame : QueuedFrame) : channel.queue.abandoned = false →
      Turned id channel t { channel with queue := { channel.queue with
        queued := some frame, nextFrame := channel.queue.nextFrame + 1 } }

/-- What is found under a number before a turn and after it. -/
inductive Fate (next : Nat) (id : QueueId) (t : Studio.Turn) :
    Option Channel → Option Channel → Prop
  | absent : Fate next id t none none
  | created : id = next → Fate next id t none (some VirtualOutput.newChannel)
  | kept {channel after} : channel.Turned id t after → Fate next id t (some channel) (some after)
  | released {channel after} : channel.Turned id t after → after.reader = none →
      Fate next id t (some channel) none

namespace Compositor

variable {c d : Compositor} {id queue : QueueId}

/-- No queue differs but one that was there. -/
def Elsewhere (c d : Compositor) (queue : QueueId) : Prop :=
  ∀ id, id ≠ queue ∨ c.channels.find? id = none → d.channels.find? id = c.channels.find? id

/-- Only a queue that nobody holds is released. -/
theorem find?_reap (c : Compositor) (queue id : QueueId) :
    (c.reap queue).channels.find? id = c.channels.find? id ∨
      id = queue ∧ (c.reap queue).channels.find? id = none ∧
        ∀ channel, c.channels.find? id = some channel →
          channel.reader = none ∧ c.isShown id = false := by
  unfold reap
  split
  next => exact .inl rfl
  next channel hf =>
    split
    next => exact .inl rfl
    next hheld =>
      by_cases hid : id = queue
      · subst hid
        refine .inr ⟨rfl, c.channels.find?_erase_self id, fun other ho => ?_⟩
        obtain rfl := Option.some.inj (hf.symm.trans ho)
        simp only [isHeld, Bool.or_eq_true, not_or, Bool.not_eq_true] at hheld
        exact ⟨by simpa using hheld.1.1.2, hheld.2⟩
      · exact .inl (c.channels.find?_erase_ne hid)

namespace Elsewhere

theorem of_eq (h : d.channels = c.channels) : c.Elsewhere d queue := fun _ _ => by rw [h]

theorem modifyChannel (c : Compositor) (queue : QueueId) (φ : Channel → Channel) :
    c.Elsewhere (c.modifyChannel queue φ) queue := by
  rintro id (hne | hnone)
  · exact Registry.find?_modify_ne _ _ hne
  · by_cases hid : id = queue
    · subst hid
      rw [Compositor.modifyChannel, Registry.find?_modify_self, hnone]
      rfl
    · exact Registry.find?_modify_ne _ _ hid

theorem reap (h : c.Elsewhere d queue) : c.Elsewhere (d.reap queue) queue := by
  intro id hid
  rw [← h id hid]
  rcases d.find?_reap queue id with hsame | ⟨rfl, hnone, _⟩
  · exact hsame
  · rw [hnone, h id hid]
    exact (hid.resolve_left fun hne => hne rfl).symm

theorem guarded {α : Type} {point : FailPoint} {call : Compositor → Except Status α × Compositor}
    (h : c.Elsewhere (call c).2 queue) : c.Elsewhere (c.guarded point call).2 queue := by
  unfold Compositor.guarded
  cases c.armed point with
  | some status => exact of_eq rfl
  | none => exact h

theorem onChannel {α : Type} {call : Channel → Except Status α × Compositor}
    (h : ∀ channel, c.Elsewhere (call channel).2 queue) :
    c.Elsewhere (c.onChannel queue call).2 queue := by
  unfold Compositor.onChannel
  cases c.channels.find? queue with
  | none => exact of_eq rfl
  | some channel => exact h channel

theorem updateQueue (c : Compositor) (queue : QueueId) (change : Queue → Except Status Queue) :
    c.Elsewhere (c.updateQueue queue change).2 queue :=
  onChannel fun channel => by
    cases change channel.queue with
    | error status => exact of_eq rfl
    | ok q => exact modifyChannel c queue _

theorem onReader {α : Type} (c : Compositor) (queue : QueueId)
    (call : Reader → Queue → Except Status (α × Reader × Queue)) :
    c.Elsewhere (c.onReader queue call).2 queue :=
  onChannel fun channel => by
    cases channel.reader with
    | none => exact of_eq rfl
    | some reader =>
      simp only
      cases call reader channel.queue with
      | error status => exact of_eq rfl
      | ok answer => exact modifyChannel c queue _

theorem newReader (c : Compositor) (queue : QueueId) (maxLocked : Nat) :
    c.Elsewhere (c.newReader queue maxLocked).2 queue :=
  guarded (onChannel fun channel => by
    cases channel.queue.attachReader maxLocked with
    | error status => exact of_eq rfl
    | ok q => exact modifyChannel c queue _)

theorem draw (c : Compositor) (queue : QueueId) (channel : Channel) (paint : Painter) :
    c.Elsewhere (c.draw queue channel paint).2 queue := by
  unfold Compositor.draw
  cases channel.queue.slot with
  | refused status => exact of_eq rfl
  | busy => exact of_eq rfl
  | free canvas =>
    simp only
    cases channel.queue.commit canvas (.mk fun _ => paint canvas canvas.blank) with
    | error status => exact of_eq rfl
    | ok commit =>
      intro id hid
      rw [announce_channels]
      exact modifyChannel c queue _ id hid

end Elsewhere

/-- A transaction that succeeds stops what the display showed, and lets it show the surface. -/
theorem applyTransaction_ok {token : DisplayToken} {surface : QueueId} {p : Projection}
    (h : (c.applyTransaction token surface p).1 = .ok ()) :
    ∃ display, c.displays.find? token = some display ∧
      (c.channels.find? surface).isSome = true ∧
      (c.applyTransaction token surface p).2 =
        match display.renderer with
        | none => (c.present token surface p).record (.transactionApplied token)
        | some r => (((c.stopRenderer r).present token surface p).reap r.surface).record
            (.transactionApplied token) := by
  unfold applyTransaction Compositor.guarded at h ⊢
  cases ha : c.armed .transaction with
  | some status =>
    rw [ha] at h
    cases h
  | none =>
    simp only [ha] at h ⊢
    split at h
    next => cases h
    next hchecked =>
      rw [if_neg hchecked]
      cases hd : c.displays.find? token with
      | none =>
        rw [hd] at h
        cases h
      | some display =>
        simp only [hd] at h ⊢
        split at h
        next => cases h
        next hsurface =>
          rw [if_neg hsurface]
          refine ⟨display, rfl, ?_, ?_⟩
          · exact Option.isSome_iff_ne_none.mpr (by simpa using hsurface)
          · cases display.renderer <;> rfl

theorem destroyDisplay_eq {token : DisplayToken} {display : VirtualDisplay}
    (h : c.displays.find? token = some display) : c.destroyDisplay token =
      match display.renderer with
      | none => ({ c with displays := c.displays.erase token } : Compositor).record
          (.displayDestroyed token)
      | some r => ((stopRenderer { c with displays := c.displays.erase token } r).reap
          r.surface).record (.displayDestroyed token) := by
  unfold destroyDisplay
  simp only [h]
  cases display.renderer <;> rfl

/-- The renderer abandons its surface, and no other. -/
theorem find?_stopRenderer (c : Compositor) (r : Renderer) (id : QueueId) :
    (c.stopRenderer r).channels.find? id =
      if id = r.surface then (c.channels.find? id).map fun channel =>
        { channel with queue := channel.queue.disconnect }
      else c.channels.find? id := by
  have hchannels : (c.stopRenderer r).channels = (c.disconnect r.surface).channels := by
    unfold stopRenderer
    cases r.phase <;> rfl
  rw [hchannels]
  split
  next hid =>
    subst hid
    exact Registry.find?_modify_self _ _ _
  next hne => exact Registry.find?_modify_ne _ _ hne

theorem Booked.queue_lt (hb : c.Booked) {channel : Channel}
    (hf : c.channels.find? id = some channel) : id < c.nextId := by
  have hm : id ∈ c.channels.keys := Registry.mem_keys.mpr (by rw [hf]; rfl)
  exact Nat.lt_of_le_of_lt (hb.orderly.live_le (hb.mem_queues.mp hm)) hb.last

theorem nextId_reap (c : Compositor) (queue : QueueId) : (c.reap queue).nextId = c.nextId := by
  unfold reap
  split
  next => rfl
  next => split <;> rfl

theorem nextId_reapShown (c : Compositor) (renderer : Option Renderer) :
    (c.reapShown renderer).nextId = c.nextId := by
  cases renderer with
  | none => rfl
  | some r => exact c.nextId_reap r.surface

theorem le_nextId_guarded {α : Type} {point : FailPoint}
    {call : Compositor → Except Status α × Compositor} (h : c.nextId ≤ (call c).2.nextId) :
    c.nextId ≤ (c.guarded point call).2.nextId := by
  unfold guarded
  cases c.armed point with
  | some status => exact Nat.le_refl _
  | none => exact h

end Compositor

/-- The queue on which a call is made, by whoever holds it. -/
def Call.queue? : Call → Option QueueId
  | disableAsync queue | setSize queue _ _ | setFormat queue _ | newReader queue _
  | listen queue _ | produce queue _ | disconnect queue | lock queue | unlock queue
  | dropProducer queue | dropEndpoint queue | dropReader queue => some queue
  | arm _ _ | startPool | connect | panel _ | newQueue | newWaiter | dropWaiter _ | takeNotice _
  | newDisplay | transact _ _ _ | destroy _ | render _ => none

theorem Call.elsewhere {call : Call} {queue : QueueId} (h : call.queue? = some queue)
    (c : Compositor) : c.Elsewhere (call.perform c).2 queue := by
  cases call with
  | disableAsync q | setFormat q =>
    obtain rfl := Option.some.inj h
    exact .updateQueue c q _
  | setSize q =>
    obtain rfl := Option.some.inj h
    exact .guarded (.updateQueue c q _)
  | newReader q maxLocked =>
    obtain rfl := Option.some.inj h
    exact .newReader c q maxLocked
  | listen q | disconnect q =>
    obtain rfl := Option.some.inj h
    exact .modifyChannel c q _
  | produce q paint =>
    obtain rfl := Option.some.inj h
    cases hf : c.channels.find? q with
    | none =>
      rw [perform_produce_of_none hf]
      exact .of_eq rfl
    | some channel =>
      rw [perform_produce hf]
      exact .draw c q channel paint
  | lock q =>
    obtain rfl := Option.some.inj h
    exact .guarded (.onReader c q _)
  | unlock q =>
    obtain rfl := Option.some.inj h
    exact .onReader c q _
  | dropProducer q | dropEndpoint q | dropReader q =>
    obtain rfl := Option.some.inj h
    exact .reap (.modifyChannel c q _)
  | arm | startPool | connect | panel | newQueue | newWaiter | dropWaiter | takeNotice
  | newDisplay | transact | destroy | render => cases h

namespace Fate

variable {c d : Compositor} {next : Nat} {id : QueueId} {t : Studio.Turn} {before : Option Channel}

theorem refl (next : Nat) (id : QueueId) (t : Studio.Turn) (before : Option Channel) :
    Fate next id t before before := by
  cases before with
  | none => exact .absent
  | some channel => exact .kept .untouched

theorem of_channels (h : d.channels = c.channels) :
    Fate next id t (c.channels.find? id) (d.channels.find? id) := by
  rw [h]
  exact refl next id t _

theorem guarded {α : Type} {point : FailPoint} {call : Compositor → Except Status α × Compositor}
    (h : (call c).2.channels = c.channels) :
    Fate next id t (c.channels.find? id) ((c.guarded point call).2.channels.find? id) := by
  unfold Compositor.guarded
  cases c.armed point with
  | some status => exact of_channels rfl
  | none => exact of_channels h

theorem map {φ : Channel → Channel}
    (h : ∀ channel, before = some channel → channel.Turned id t (φ channel)) :
    Fate next id t before (before.map φ) := by
  cases before with
  | none => exact .absent
  | some channel => exact .kept (h channel rfl)

/-- Who releases a queue does so because nobody holds it, its reader included. -/
theorem reap (h : Fate next id t before (d.channels.find? id)) (queue : QueueId) :
    Fate next id t before ((d.reap queue).channels.find? id) := by
  rcases d.find?_reap queue id with hsame | ⟨_, hnone, hfree⟩
  · rw [hsame]
    exact h
  · rw [hnone]
    generalize d.channels.find? id = after at h hfree
    cases h with
    | absent => exact .absent
    | created => exact .absent
    | kept h => exact .released h (hfree _ rfl).1
    | released h hr => exact .released h hr

theorem modifyChannel {queue : QueueId} {φ : Channel → Channel}
    (h : ∀ channel, queue = id → c.channels.find? id = some channel →
      channel.Turned id t (φ channel)) :
    Fate next id t (c.channels.find? id) ((c.modifyChannel queue φ).channels.find? id) := by
  by_cases hid : queue = id
  · subst hid
    rw [Compositor.modifyChannel, Registry.find?_modify_self]
    exact map fun channel => h channel rfl
  · rw [Compositor.modifyChannel, Registry.find?_modify_ne _ _ (Ne.symm hid)]
    exact refl next id t _

/-- A frame is queued that was drawn before. -/
theorem commit {surface : QueueId} {queue : Queue} {canvas : Canvas} {data : Thunk Bytes}
    {commit : Queue.Commit} (hq : c.queue? surface = some queue)
    (hc : queue.commit canvas data = .ok commit) :
    Fate next id t (c.channels.find? id)
      ((c.setQueue surface commit.queue).channels.find? id) := by
  refine modifyChannel fun channel hid hf => ?_
  subst hid
  rw [Compositor.queue?, hf] at hq
  obtain rfl := Option.some.inj hq
  cases ha : channel.queue.abandoned with
  | true =>
    rw [Queue.commit, if_pos ha] at hc
    cases hc
  | false =>
    rw [Queue.commit_of_alive ha] at hc
    obtain rfl := Except.ok.inj hc
    exact .queued _ ha

theorem stopRenderer (c : Compositor) (r : Renderer) :
    Fate next id t (c.channels.find? id) ((c.stopRenderer r).channels.find? id) := by
  rw [Compositor.find?_stopRenderer]
  split
  next => exact map fun _ _ => .abandoned
  next => exact refl next id t _

theorem renderStep (c : Compositor) (token : DisplayToken) :
    Fate next id t (c.channels.find? id) ((c.renderStep token).channels.find? id) := by
  unfold Compositor.renderStep
  split
  next =>
    refine of_channels ?_
    unfold Compositor.beginFrame
    repeat' split
    all_goals rfl
  next =>
    unfold Compositor.commitFrame
    split
    next =>
      split
      next => exact refl next id t _
      next queue hq =>
        split
        next => exact refl next id t _
        next hc => exact commit hq hc
    next => exact refl next id t _
  next =>
    refine of_channels ?_
    unfold Compositor.announceFrame
    split <;> rfl
  next => exact refl next id t _
  next => exact refl next id t _

theorem newQueue (hb : c.Booked) :
    Fate c.nextId id t (c.channels.find? id) (c.newQueue.2.channels.find? id) := by
  rw [VirtualOutput.newQueue_eq]
  cases c.armed .newQueue with
  | some status => exact refl c.nextId id t _
  | none =>
    by_cases hid : id = c.nextId
    · have hnone : c.channels.find? id = none :=
        hid ▸ Registry.find?_of_not_mem_keys hb.next_not_mem.1
      have hfresh : (c.opened VirtualOutput.newChannel).channels.find? id =
          some VirtualOutput.newChannel := hid ▸ c.opened_find? VirtualOutput.newChannel
      simp only
      rw [hnone, hfresh]
      exact .created hid
    · have hsame : (c.opened VirtualOutput.newChannel).channels.find? id = c.channels.find? id :=
        Registry.find?_insert_ne _ _ hid
      simp only
      rw [hsame]
      exact refl c.nextId id t _

theorem applyTransaction (c : Compositor) (token : DisplayToken) (surface : QueueId)
    (p : Projection) : Fate next id t (c.channels.find? id)
      ((c.applyTransaction token surface p).2.channels.find? id) := by
  cases hresult : (c.applyTransaction token surface p).1 with
  | error status =>
    -- only an armed failure may have been used up
    have hundone := Compositor.undone_applyTransaction (failed?_eq_some.mpr hresult)
    generalize (c.applyTransaction token surface p).2 = d at hundone
    cases hundone <;> exact refl next id t _
  | ok =>
    obtain ⟨display, _, _, he⟩ := Compositor.applyTransaction_ok hresult
    rw [he]
    cases display.renderer with
    | none => exact refl next id t _
    | some r =>
      have hstopped : Fate next id t (c.channels.find? id)
          (((c.stopRenderer r).present token surface p).channels.find? id) := stopRenderer c r
      exact hstopped.reap r.surface

theorem destroyDisplay (c : Compositor) (token : DisplayToken) :
    Fate next id t (c.channels.find? id) ((c.destroyDisplay token).channels.find? id) := by
  cases hd : c.displays.find? token with
  | none =>
    rw [Compositor.destroyDisplay, hd]
    exact refl next id t _
  | some display =>
    rw [Compositor.destroyDisplay_eq hd]
    cases display.renderer with
    | none => exact refl next id t _
    | some r =>
      have hstopped : Fate next id t (c.channels.find? id)
          ((Compositor.stopRenderer { c with displays := c.displays.erase token } r).channels.find?
            id) := stopRenderer { c with displays := c.displays.erase token } r
      exact hstopped.reap r.surface

end Fate

namespace Call

variable {c : Compositor} {id : QueueId}

theorem fate_of_isOn {channel : Channel} (hf : c.channels.find? id = some channel) {call : Call}
    (hon : call.isOn id = true) (hother : call ≠ .dropReader id) :
    Fate c.nextId id (.call call) (some channel) ((call.perform c).2.channels.find? id) := by
  obtain ⟨after, ha, hs, _⟩ := does_of_isOn hf hon fun h => absurd h hother
  rw [ha]
  exact .kept (.stepped hon hs)

/-- A call on the queue itself. -/
theorem fate_of_queue? {channel : Channel} (hf : c.channels.find? id = some channel) {call : Call}
    (hq : call.queue? = some id) :
    Fate c.nextId id (.call call) (some channel) ((call.perform c).2.channels.find? id) := by
  cases call with
  | disableAsync | setSize | setFormat | newReader | produce | disconnect | lock | unlock =>
    exact fate_of_isOn hf (decide_eq_true (Option.some.inj hq)) nofun
  | listen queue waiter =>
    rw [← hf]
    exact .modifyChannel fun _ _ _ => .listened
  | dropProducer queue =>
    rw [← hf]
    refine .reap (.modifyChannel fun other _ _ => ?_) queue
    exact .letGo false other.endpointHeld
  | dropEndpoint queue =>
    rw [← hf]
    refine .reap (.modifyChannel fun other _ _ => ?_) queue
    exact .letGo other.producerHeld false
  | dropReader queue =>
    rw [← hf]
    refine .reap (.modifyChannel fun other _ _ => ?_) queue
    cases hr : other.reader with
    | none => exact .untouched
    | some reader => exact .stepped (decide_eq_true (Option.some.inj hq)) (.dropped hr)
  | arm | startPool | connect | panel | newQueue | newWaiter | dropWaiter | takeNotice
  | newDisplay | transact | destroy | render => cases hq

/-- What becomes of a queue, whatever is called. -/
theorem fate (hb : c.Booked) (call : Call) (id : QueueId) :
    Fate c.nextId id (.call call) (c.channels.find? id)
      ((call.perform c).2.channels.find? id) := by
  cases hq : call.queue? with
  | some queue =>
    -- a call on one queue leaves the others alone
    by_cases hid : id = queue
    · subst hid
      cases hf : c.channels.find? id with
      | none =>
        rw [elsewhere hq c id (.inr hf), hf]
        exact .absent
      | some channel => exact fate_of_queue? hf hq
    · rw [elsewhere hq c id (.inl hid)]
      exact .refl c.nextId id _ _
  | none =>
    cases call with
    | arm | newWaiter | dropWaiter => exact .refl c.nextId id _ _
    | startPool =>
      refine .of_channels ?_
      simp only [perform, Compositor.startPool]
      split <;> rfl
    | connect | newDisplay => exact .guarded rfl
    | panel number => exact .guarded (by cases c.panels.find? number <;> rfl)
    | takeNotice waiter =>
      refine .of_channels ?_
      simp only [perform]
      split
      next d hd =>
        obtain ⟨w, _, hw⟩ := Option.bind_eq_some_iff.mp hd
        obtain ⟨_, _, rfl⟩ := Option.map_eq_some_iff.mp hw
        rfl
      next => rfl
    | newQueue => exact .newQueue hb
    | transact token surface p => exact .applyTransaction c token surface p
    | destroy token => exact .destroyDisplay c token
    | render token => exact .renderStep c token
    | disableAsync | setSize | setFormat | newReader | listen | produce | disconnect | lock
    | unlock | dropProducer | dropEndpoint | dropReader => cases hq

/-- No number is given out again. -/
theorem nextId_le (c : Compositor) (call : Call) : c.nextId ≤ (call.perform c).2.nextId := by
  by_cases hq : call.isQuiet = true
  · exact Nat.le_of_eq (quiet_perform hq c).nextId.symm
  · cases call with
    | startPool =>
      simp only [perform, Compositor.startPool]
      split <;> exact Nat.le_refl _
    | newQueue | newDisplay => exact Compositor.le_nextId_guarded (Nat.le_succ _)
    | newReader queue maxLocked =>
      refine Compositor.le_nextId_guarded ?_
      unfold Compositor.onChannel
      cases c.channels.find? queue with
      | none => exact Nat.le_refl _
      | some channel =>
        simp only
        cases channel.queue.attachReader maxLocked <;> exact Nat.le_refl _
    | dropProducer queue | dropEndpoint queue | dropReader queue =>
      exact Nat.le_of_eq (Compositor.nextId_reap (c.modifyChannel queue _) queue).symm
    | transact token surface p =>
      rcases c.applyTransaction_cases token surface p with
        ⟨_, _, hq⟩ | ⟨display, d, _, _, hq, he⟩
      · exact Nat.le_of_eq hq.nextId.symm
      · simp only [perform, he]
        have hsame := Compositor.nextId_reapShown (d.present token surface p) display.renderer
        exact Nat.le_of_eq (hsame.trans hq.nextId).symm
    | destroy token =>
      rcases c.destroyDisplay_cases token with ⟨_, he⟩ | ⟨display, d, _, hq, he⟩
      · simp only [perform, he]
        exact Nat.le_refl _
      · simp only [perform, he]
        have hsame := Compositor.nextId_reapShown d display.renderer
        exact Nat.le_of_eq (hsame.trans hq.nextId).symm
    | _ => exact absurd rfl hq

end Call

namespace Studio

variable {s : Studio}

theorem fate (hb : s.compositor.Booked) (t : Turn) (id : QueueId) :
    Fate s.compositor.nextId id t (s.compositor.channels.find? id)
      ((s.turn t).2.compositor.channels.find? id) := by
  cases t with
  | call call => exact Call.fate hb call id
  | begin thread queue =>
    exact .of_channels (congrArg Compositor.channels (s.compositor_begin thread queue))
  | finish thread paint =>
    simp only [turn, finish]
    split
    next => exact .refl s.compositor.nextId id _ _
    next =>
      split
      next => exact .refl s.compositor.nextId id _ _
      next queue hq =>
        split
        next => exact .refl s.compositor.nextId id _ _
        next hc =>
          simp only [Compositor.announce_channels]
          exact .commit hq hc

theorem quiet_begin (s : Studio) (thread : Nat) (id : QueueId) :
    s.compositor.Quiet (s.begin thread id).2.compositor := by
  rw [compositor_begin]
  exact .refl s.compositor

theorem quiet_finish (s : Studio) (thread : Nat) (paint : Painter) :
    s.compositor.Quiet (s.finish thread paint).2.compositor := by
  unfold finish
  split
  next => exact .refl s.compositor
  next =>
    split
    next => exact .refl s.compositor
    next =>
      split
      next => exact .refl s.compositor
      next => exact (Compositor.Quiet.setQueue _).trans (.announce _)

theorem nextId_le (s : Studio) (t : Turn) :
    s.compositor.nextId ≤ (s.turn t).2.compositor.nextId := by
  cases t with
  | call call => exact call.nextId_le s.compositor
  | begin thread id => exact Nat.le_of_eq (s.quiet_begin thread id).nextId.symm
  | finish thread paint => exact Nat.le_of_eq (s.quiet_finish thread paint).nextId.symm

theorem booked_turn (hb : s.compositor.Booked) (t : Turn) : (s.turn t).2.compositor.Booked := by
  cases t with
  | call call => exact Call.booked_perform hb call
  | begin thread id => exact hb.quiet (s.quiet_begin thread id)
  | finish thread paint => exact hb.quiet (s.quiet_finish thread paint)

theorem booked_run (panels : Registry Int32 Panel) (interval : Nat) (turns : List Turn) :
    (run turns (still (.ofPanels panels interval))).compositor.Booked := by
  induction turns using List.reverseRecOn with
  | nil => exact Compositor.ofPanels_booked panels interval
  | append_singleton turns t ih =>
    rw [run_snoc]
    exact booked_turn ih t

end Studio

end ScreenCapture
