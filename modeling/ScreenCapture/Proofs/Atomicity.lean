import ScreenCapture.Proofs.Accounting
import ScreenCapture.Proofs.Overlap

namespace ScreenCapture

def failed? {α : Type} : Except Status α → Option Status
  | .error status => some status
  | .ok _ => none

theorem failed?_eq_some {α : Type} {result : Except Status α} {status : Status} :
    failed? result = some status ↔ result = .error status := by
  cases result <;> simp [failed?]

/-- The status with which a call to produce a frame fails. -/
def Production.failure? : Production → Option Status
  | refused status => some status
  | blocked => none
  | finished _ result => failed? result

/-- The status with which a call fails. -/
def Reply.failure? : Reply → Option Status
  | done | noticed _ => none
  | told result => failed? result
  | numbered result => failed? result
  | described result => failed? result
  | produced result => result.failure?
  | locked result => failed? result

/-- Where a call can be made to fail. -/
def Call.point? : Call → Option FailPoint
  | connect => some .connection
  | panel _ => some .panel
  | newQueue => some .newQueue
  | setSize _ _ _ => some .queueSize
  | newReader _ _ => some .newReader
  | newDisplay => some .newDisplay
  | transact _ _ _ => some .transaction
  | lock _ => some .lock
  | arm _ _ | startPool | disableAsync _ | setFormat _ _ | newWaiter | dropWaiter _ | takeNotice _
  | listen _ _ | produce _ _ | disconnect _ | unlock _ | dropProducer _ | dropEndpoint _
  | dropReader _ | destroy _ | render _ => none

def Studio.Turn.point? : Studio.Turn → Option FailPoint
  | .call asked => asked.point?
  | .begin _ _ | .finish _ _ => none

/-- What a call that failed leaves behind: an armed failure of its own is used up, and else nothing
is different. -/
inductive Undone (c : Compositor) (point? : Option FailPoint) (status : Status) : Compositor → Prop
  | spent {point : FailPoint} : point? = some point → c.armed point = some status →
      Undone c point? status (c.disarm point)
  | kept : (∀ point, point? = some point → c.armed point = none) → Undone c point? status c

theorem Undone.of_none {c : Compositor} {point? : Option FailPoint} (status : Status)
    (hp : point? = none) : Undone c point? status c :=
  .kept fun point hpoint => absurd (hp.symm.trans hpoint) (Option.some_ne_none point).symm

namespace Compositor

variable {c : Compositor} {status : Status}

/-- A call that does nothing when it fails of itself. -/
def Spares {α : Type} (c : Compositor) (outcome : Except Status α × Compositor) : Prop :=
  ∀ status, outcome.1 = .error status → outcome.2 = c

theorem spares_ok {α : Type} (c d : Compositor) (a : α) : c.Spares (.ok a, d) := nofun

theorem spares_error {α : Type} (c : Compositor) (status : Status) :
    c.Spares (α := α) (.error status, c) := fun _ _ => rfl

theorem spares_onChannel {α : Type} {id : QueueId} {call : Channel → Except Status α × Compositor}
    (hcall : ∀ channel, c.Spares (call channel)) : c.Spares (c.onChannel id call) := by
  unfold onChannel
  cases c.channels.find? id with
  | none => exact c.spares_error _
  | some channel => exact hcall channel

theorem spares_updateQueue (c : Compositor) (id : QueueId) (change : Queue → Except Status Queue) :
    c.Spares (c.updateQueue id change) := by
  refine spares_onChannel fun channel => ?_
  cases change channel.queue with
  | error status => exact c.spares_error status
  | ok queue => exact c.spares_ok _ ()

theorem spares_onReader {α : Type} (c : Compositor) (id : QueueId)
    (call : Reader → Queue → Except Status (α × Reader × Queue)) :
    c.Spares (c.onReader id call) := by
  refine spares_onChannel fun channel => ?_
  cases channel.reader with
  | none => exact c.spares_error _
  | some reader =>
    simp only
    cases call reader channel.queue with
    | error status => exact c.spares_error status
    | ok answer => exact c.spares_ok _ answer.1

theorem Spares.undone {α : Type} {outcome : Except Status α × Compositor} (h : c.Spares outcome)
    (hf : failed? outcome.1 = some status) : Undone c none status outcome.2 := by
  rw [h status (failed?_eq_some.mp hf)]
  exact .of_none _ rfl

/-- Whether a call is armed to fail is asked before anything else is done. -/
theorem Spares.guarded {α : Type} {point : FailPoint}
    {call : Compositor → Except Status α × Compositor} (h : c.Spares (call c))
    (hf : failed? (c.guarded point call).1 = some status) :
    Undone c (some point) status (c.guarded point call).2 := by
  have hfailed := failed?_eq_some.mp hf
  unfold Compositor.guarded at hfailed ⊢
  cases ha : c.armed point with
  | some armed =>
    simp only [ha] at hfailed ⊢
    obtain rfl := Except.error.inj hfailed
    exact .spent rfl ha
  | none =>
    simp only [ha] at hfailed ⊢
    rw [h status hfailed]
    refine .kept fun other ho => ?_
    obtain rfl := Option.some.inj ho
    exact ha

theorem spares_panel (c : Compositor) (id : Int32) :
    c.Spares (match c.panels.find? id with
      | some panel => (.ok panel, c)
      | none => (.error .nameNotFound, c)) := by
  cases c.panels.find? id with
  | some panel => exact c.spares_ok c panel
  | none => exact c.spares_error _

theorem spares_newReader (c : Compositor) (id : QueueId) (maxLocked : Nat) :
    c.Spares (c.onChannel id fun channel =>
      match channel.queue.attachReader maxLocked with
      | .error status => (.error status, c)
      | .ok queue =>
        (.ok (), c.modifyChannel id fun channel =>
          { channel with queue, reader := some .fresh })) :=
  spares_onChannel fun channel => by
    cases channel.queue.attachReader maxLocked with
    | error status => exact c.spares_error status
    | ok queue => exact c.spares_ok _ ()

/-- A transaction is checked as a whole before any of it is applied. -/
theorem undone_applyTransaction {token : DisplayToken} {surface : QueueId}
    {projection : Projection}
    (hf : failed? (c.applyTransaction token surface projection).1 = some status) :
    Undone c (some .transaction) status (c.applyTransaction token surface projection).2 := by
  refine Spares.guarded ?_ hf
  split
  next => exact c.spares_error _
  next =>
    cases c.displays.find? token with
    | none => exact c.spares_error _
    | some display =>
      simp only
      split
      next => exact c.spares_error _
      next => exact c.spares_ok _ ()

theorem spares_draw {id : QueueId} {channel : Channel} {paint : Painter}
    (hf : (c.draw id channel paint).1.failure? = some status) :
    (c.draw id channel paint).2 = c := by
  unfold draw at hf ⊢
  split at hf
  next => rfl
  next => rfl
  next =>
    split at hf
    next => rfl
    next => cases hf

end Compositor

theorem Call.undone {c : Compositor} {call : Call} {status : Status}
    (hf : (call.perform c).1.failure? = some status) :
    Undone c call.point? status (call.perform c).2 := by
  cases call with
  | connect => exact Compositor.Spares.guarded (c.spares_ok c ()) hf
  | panel id => exact Compositor.Spares.guarded (c.spares_panel id) hf
  | newQueue => exact Compositor.Spares.guarded (c.spares_ok _ _) hf
  | disableAsync queue => exact (c.spares_updateQueue queue _).undone hf
  | setSize queue width height => exact (c.spares_updateQueue queue _).guarded hf
  | setFormat queue format => exact (c.spares_updateQueue queue _).undone hf
  | newReader queue maxLocked => exact (c.spares_newReader queue maxLocked).guarded hf
  | lock queue => exact (c.spares_onReader queue _).guarded hf
  | unlock queue => exact (c.spares_onReader queue _).undone hf
  | newDisplay => exact Compositor.Spares.guarded (c.spares_ok _ _) hf
  | transact token surface projection => exact Compositor.undone_applyTransaction hf
  | produce queue paint =>
    cases hc : c.channels.find? queue with
    | none =>
      rw [perform_produce_of_none hc]
      exact .of_none _ rfl
    | some channel =>
      rw [perform_produce hc] at hf ⊢
      have hsame : (c.draw queue channel paint).2 = c := Compositor.spares_draw hf
      simp only [hsame]
      exact .of_none _ rfl
  | takeNotice waiter =>
    simp only [perform] at hf
    cases hn : c.takeNotice? waiter <;> rw [hn] at hf <;> cases hf
  | arm | startPool | newWaiter | dropWaiter | listen | disconnect | dropProducer | dropEndpoint
  | dropReader | destroy | render => cases hf

theorem Studio.undone {s : Studio} {t : Turn} {status : Status}
    (hf : (s.turn t).1.failure? = some status) :
    Undone s.compositor t.point? status (s.turn t).2.compositor := by
  cases t with
  | call call => exact Call.undone hf
  | begin thread id =>
    simp only [turn, begin]
    repeat' split
    all_goals exact .of_none _ rfl
  | finish thread paint =>
    simp only [turn, finish] at hf ⊢
    split at hf
    next => cases hf
    next =>
      split at hf
      next => exact .of_none _ rfl
      next =>
        split at hf
        next => exact .of_none _ rfl
        next => cases hf

namespace Compositor

variable {c d : Compositor} {status : Status} {id : QueueId}

/-- A call that fails after it has waited for the slot leaves nothing but its place. -/
theorem undone_resume {channel : Channel} (hc : c.channels.find? id = some channel)
    (hheld : channel.producerHeld = true) {production : Production}
    (h : c.resume id = (some production, d)) (hf : production.failure? = some status) :
    d = c.modifyChannel id fun channel => { channel with waitingCall := none } := by
  unfold resume at h
  rw [hc] at h
  simp only at h
  split at h
  next => cases h
  next paint _ =>
    have hheld' : c.isHeld id { channel with waitingCall := none } = true := by
      simp [isHeld, hheld]
    have hspares (hd : (c.draw id channel paint).1.failure? = some status) :
        (c.draw id channel paint).2 = c := spares_draw hd
    generalize c.draw id channel paint = drawn at h hspares
    obtain ⟨result, e⟩ := drawn
    cases result with
    | blocked => cases h
    | refused | finished =>
      cases h
      obtain rfl : e = c := hspares hf
      exact reap_modify_held hc hheld'

theorem projection_congr (h : d.displays = c.displays) (token : DisplayToken) :
    d.projection token = c.projection token := by
  rw [projection, h]
  rfl

theorem displays_guarded {α : Type} {point : FailPoint}
    {call : Compositor → Except Status α × Compositor}
    (h : (call c).2.displays = c.displays) : (c.guarded point call).2.displays = c.displays := by
  unfold guarded
  cases c.armed point with
  | some status => rfl
  | none => exact h

theorem displays_onChannel {α : Type} {call : Channel → Except Status α × Compositor}
    (h : ∀ channel, (call channel).2.displays = c.displays) :
    (c.onChannel id call).2.displays = c.displays := by
  unfold onChannel
  cases c.channels.find? id with
  | none => rfl
  | some channel => exact h channel

theorem displays_updateQueue (c : Compositor) (id : QueueId)
    (change : Queue → Except Status Queue) : (c.updateQueue id change).2.displays = c.displays :=
  displays_onChannel fun channel => by cases change channel.queue <;> rfl

theorem displays_onReader {α : Type} (c : Compositor) (id : QueueId)
    (call : Reader → Queue → Except Status (α × Reader × Queue)) :
    (c.onReader id call).2.displays = c.displays :=
  displays_onChannel fun channel => by
    cases channel.reader with
    | none => rfl
    | some reader => simp only; cases call reader channel.queue <;> rfl

theorem displays_announce (c : Compositor) (waiter : Option WaiterId) :
    (c.announce waiter).displays = c.displays := by
  cases waiter <;> rfl

theorem displays_draw (c : Compositor) (id : QueueId) (channel : Channel) (paint : Painter) :
    (c.draw id channel paint).2.displays = c.displays := by
  unfold draw
  split
  next => rfl
  next => rfl
  next =>
    split
    next => rfl
    next => exact displays_announce _ _

theorem displays_stopRenderer (c : Compositor) (r : Renderer) :
    (c.stopRenderer r).displays = c.displays := by
  unfold stopRenderer
  cases r.phase <;> rfl

theorem projection_setPhase (c : Compositor) (shown token : DisplayToken) (phase : RenderPhase) :
    (c.setPhase shown phase).projection token = c.projection token := by
  by_cases ht : token = shown
  · subst ht
    simp only [projection, setPhase, Registry.find?_modify_self]
    cases c.displays.find? token <;> rfl
  · simp only [projection, setPhase, Registry.find?_modify_ne _ _ ht]

/-- A renderer touches its own phase, its surface and the listener. -/
theorem renderStep_keeps {α : Type} (f : Compositor → α) {shown : DisplayToken}
    (hphase : ∀ c phase, f (setPhase c shown phase) = f c)
    (hqueue : ∀ c surface queue, f (setQueue c surface queue) = f c)
    (hnotify : ∀ c waiter, f (notify c waiter) = f c) (c : Compositor) :
    f (c.renderStep shown) = f c := by
  unfold renderStep
  split
  next =>
    unfold beginFrame
    repeat' split
    all_goals first | exact hphase _ _ | rfl
  next =>
    unfold commitFrame
    repeat' split
    all_goals first | exact (hphase _ _).trans (hqueue _ _ _) | exact hphase _ _ | rfl
  next =>
    unfold announceFrame
    split
    next => exact (hphase _ _).trans (hnotify _ _)
    next => rfl
  next => rfl
  next => rfl

theorem projection_renderStep (c : Compositor) (shown token : DisplayToken) :
    (c.renderStep shown).projection token = c.projection token :=
  renderStep_keeps (·.projection token) (fun c => c.projection_setPhase shown token)
    (fun _ _ _ => rfl) (fun _ _ => rfl) c

theorem projection_newDisplay {token created : DisplayToken}
    (h : c.newDisplay.1 = .ok created) :
    c.newDisplay.2.projection token = if created = token then none else c.projection token := by
  unfold newDisplay guarded at h ⊢
  cases ha : c.armed .newDisplay with
  | some status =>
    rw [ha] at h
    cases h
  | none =>
    rw [ha] at h
    obtain rfl : c.nextId = created := Except.ok.inj h
    simp only [projection, takeId, record]
    split
    next ht =>
      subst ht
      simp [Registry.find?_insert_self]
    next ht => rw [Registry.find?_insert_ne _ _ (Ne.symm ht)]

theorem projection_applyTransaction {target token : DisplayToken} {surface : QueueId}
    {p : Projection} (h : (c.applyTransaction target surface p).1 = .ok ()) :
    (c.applyTransaction target surface p).2.projection token =
      if target = token then some p else c.projection token := by
  have hpresent (d : Compositor) (hd : d.displays = c.displays) {display : VirtualDisplay}
      (hf : c.displays.find? target = some display) :
      (d.present target surface p).projection token =
        if target = token then some p else c.projection token := by
    simp only [projection, present, hd]
    split
    next ht =>
      subst ht
      simp [Registry.find?_modify_self, hf]
    next ht => rw [Registry.find?_modify_ne _ _ (Ne.symm ht)]
  unfold applyTransaction guarded at h ⊢
  cases ha : c.armed .transaction with
  | some status =>
    rw [ha] at h
    cases h
  | none =>
    simp only [ha] at h ⊢
    split at h
    next => cases h
    next hchecked =>
      rw [if_neg hchecked]
      cases hf : c.displays.find? target with
      | none =>
        rw [hf] at h
        cases h
      | some display =>
        simp only [hf] at h ⊢
        split at h
        next => cases h
        next hsurface =>
          rw [if_neg hsurface]
          cases display.renderer with
          | none => exact hpresent c rfl hf
          | some r =>
            have hstop := hpresent (c.stopRenderer r) (c.displays_stopRenderer r) hf
            exact (projection_congr (reap_displays _ _) token).trans hstop

theorem projection_destroyDisplay (c : Compositor) (target token : DisplayToken) :
    (c.destroyDisplay target).projection token =
      if target = token then none else c.projection token := by
  have herased (d : Compositor) (hd : d.displays = c.displays.erase target) :
      d.projection token = if target = token then none else c.projection token := by
    simp only [projection, hd]
    split
    next ht =>
      subst ht
      rw [Registry.find?_erase_self]
      rfl
    next ht => rw [Registry.find?_erase_ne _ (Ne.symm ht)]
  unfold destroyDisplay
  cases hf : c.displays.find? target with
  | none =>
    simp only
    split
    next ht =>
      subst ht
      simp [projection, hf]
    next => rfl
  | some display =>
    cases hr : display.renderer with
    | none => simp only [hr]; exact herased _ rfl
    | some r =>
      simp only [hr]
      exact herased _ ((reap_displays _ _).trans (displays_stopRenderer _ r))

end Compositor

/-- What a call that was answered publishes for a display, if it says anything about it. -/
def Call.publishes? (token : DisplayToken) : Call → Reply → Option (Option Projection)
  | newDisplay, .numbered (.ok created) => if created = token then some none else none
  | transact target _ p, .told (.ok ()) => if target = token then some (some p) else none
  | destroy target, _ => if target = token then some none else none
  | _, _ => none

theorem Undone.displays {c d : Compositor} {point? : Option FailPoint} {status : Status}
    (h : Undone c point? status d) : d.displays = c.displays := by
  cases h <;> rfl

/-- Calls that are not made on a display leave all of them as they are. -/
theorem Call.displays_perform (c : Compositor) (call : Call) (hnew : call ≠ newDisplay)
    (htransact : ∀ token surface p, call ≠ transact token surface p)
    (hdestroy : ∀ token, call ≠ destroy token) (hrender : ∀ token, call ≠ render token) :
    (call.perform c).2.displays = c.displays := by
  cases call with
  | arm | newWaiter | dropWaiter | listen | disconnect => rfl
  | startPool => simp only [perform, Compositor.startPool]; split <;> rfl
  | connect | newQueue => exact Compositor.displays_guarded rfl
  | panel id =>
    exact Compositor.displays_guarded (by cases c.panels.find? id <;> rfl)
  | disableAsync queue | setFormat queue => exact c.displays_updateQueue queue _
  | setSize queue => exact Compositor.displays_guarded (c.displays_updateQueue queue _)
  | newReader queue maxLocked =>
    refine Compositor.displays_guarded (Compositor.displays_onChannel fun channel => ?_)
    cases channel.queue.attachReader maxLocked <;> rfl
  | takeNotice waiter =>
    simp only [perform]
    split
    next d hd =>
      obtain ⟨w, _, hw⟩ := Option.bind_eq_some_iff.mp hd
      obtain ⟨_, _, rfl⟩ := Option.map_eq_some_iff.mp hw
      rfl
    next => rfl
  | produce queue paint =>
    cases hc : c.channels.find? queue with
    | none => rw [perform_produce_of_none hc]
    | some channel =>
      rw [perform_produce hc]
      exact c.displays_draw queue channel paint
  | lock queue => exact Compositor.displays_guarded (c.displays_onReader queue _)
  | unlock queue => exact c.displays_onReader queue _
  | dropProducer queue | dropEndpoint queue | dropReader queue =>
    exact Compositor.reap_displays _ queue
  | newDisplay => exact absurd rfl hnew
  | transact token surface p => exact absurd rfl (htransact token surface p)
  | destroy token => exact absurd rfl (hdestroy token)
  | render token => exact absurd rfl (hrender token)

/-- A projection changes as it is published, and by nothing else. -/
theorem Call.projection_perform (c : Compositor) (call : Call) (token : DisplayToken) :
    (call.perform c).2.projection token =
      (call.publishes? token (call.perform c).1).getD (c.projection token) := by
  have hothers := displays_perform c call
  cases call with
  | newDisplay =>
    have hundone (status : Status) (hf : failed? c.newDisplay.1 = some status) :
        Undone c (some .newDisplay) status c.newDisplay.2 :=
      Compositor.Spares.guarded (c.spares_ok _ _) hf
    have hcreated (created : DisplayToken) (hok : c.newDisplay.1 = .ok created) :
        c.newDisplay.2.projection token = if created = token then none else c.projection token :=
      Compositor.projection_newDisplay hok
    simp only [perform]
    generalize c.newDisplay = answer at hundone hcreated ⊢
    obtain ⟨_ | created, d⟩ := answer
    · exact Compositor.projection_congr (hundone _ rfl).displays token
    · refine (hcreated created rfl).trans ?_
      simp only [publishes?]
      split <;> rfl
  | transact target surface p =>
    have hundone (status : Status)
        (hf : failed? (c.applyTransaction target surface p).1 = some status) :
        Undone c (some .transaction) status (c.applyTransaction target surface p).2 :=
      Compositor.undone_applyTransaction hf
    have happlied (hok : (c.applyTransaction target surface p).1 = .ok ()) :
        (c.applyTransaction target surface p).2.projection token =
          if target = token then some p else c.projection token :=
      Compositor.projection_applyTransaction hok
    simp only [perform]
    generalize c.applyTransaction target surface p = answer at hundone happlied ⊢
    obtain ⟨_ | _, d⟩ := answer
    · exact Compositor.projection_congr (hundone _ rfl).displays token
    · refine (happlied rfl).trans ?_
      simp only [publishes?]
      split <;> rfl
  | destroy target =>
    refine (c.projection_destroyDisplay target token).trans ?_
    simp only [publishes?]
    split <;> rfl
  | render shown => exact c.projection_renderStep shown token
  | arm | startPool | connect | panel | newQueue | disableAsync | setSize | setFormat | newReader
  | newWaiter | dropWaiter | takeNotice | listen | produce | disconnect | lock | unlock
  | dropProducer | dropEndpoint | dropReader =>
    exact Compositor.projection_congr (hothers (by simp) (by simp) (by simp) (by simp)) token

namespace Studio

def Moment.publishes? (x : Moment) (token : DisplayToken) : Option (Option Projection) :=
  match x.turn with
  | .call asked => asked.publishes? token x.reply
  | .begin _ _ | .finish _ _ => none

/-- What was published last for a display: nothing, as long as no transaction has succeeded since it
was created, or once it is destroyed. -/
def published (token : DisplayToken) (xs : List Moment) : Option Projection :=
  (xs.reverse.findSome? fun x => x.publishes? token).getD none

theorem published_snoc (token : DisplayToken) (xs : List Moment) (x : Moment) :
    published token (xs ++ [x]) = (x.publishes? token).getD (published token xs) := by
  rw [published, List.reverse_append, List.reverse_singleton, List.singleton_append,
    List.findSome?_cons]
  cases x.publishes? token <;> rfl

/-- Who looks for a buffer changes nothing in the compositor. -/
theorem compositor_begin (s : Studio) (thread : Nat) (id : QueueId) :
    (s.begin thread id).2.compositor = s.compositor := by
  unfold begin
  repeat' split
  all_goals rfl

theorem displays_begin (s : Studio) (thread : Nat) (id : QueueId) :
    (s.begin thread id).2.compositor.displays = s.compositor.displays :=
  congrArg Compositor.displays (s.compositor_begin thread id)

theorem displays_finish (s : Studio) (thread : Nat) (paint : Painter) :
    (s.finish thread paint).2.compositor.displays = s.compositor.displays := by
  unfold finish
  split
  next => rfl
  next =>
    split
    next => rfl
    next =>
      split
      next => rfl
      next => exact Compositor.displays_announce _ _

theorem projection_turn (s : Studio) (t : Turn) (token : DisplayToken) :
    (s.turn t).2.compositor.projection token =
      (Moment.publishes? ⟨s, t⟩ token).getD (s.compositor.projection token) := by
  cases t with
  | call call => exact call.projection_perform s.compositor token
  | begin thread id => exact Compositor.projection_congr (s.displays_begin thread id) token
  | finish thread paint => exact Compositor.projection_congr (s.displays_finish thread paint) token

theorem projection_run (panels : Registry Int32 Panel) (interval : Nat) (turns : List Turn)
    (token : DisplayToken) :
    (run turns (still (.ofPanels panels interval))).compositor.projection token =
      published token (moments turns (still (.ofPanels panels interval))) := by
  induction turns using List.reverseRecOn with
  | nil => rfl
  | append_singleton turns t ih =>
    rw [run_snoc, moments_snoc, published_snoc, projection_turn, ih]

/-- A call that fails leaves everything as it was, an armed failure of its own apart, which is used
up. So does a call that fails only once its frame is drawn, or after it has waited for the slot.
What is published for a display is what the last transaction that succeeded has published. -/
theorem failed_calls_undone :
    (∀ (s : Studio) (t : Turn) (status : Status), (s.turn t).1.failure? = some status →
      Undone s.compositor t.point? status (s.turn t).2.compositor) ∧
    (∀ (c d : Compositor) (id : QueueId) (channel : Channel) (production : Production)
      (status : Status), c.channels.find? id = some channel → channel.producerHeld = true →
      c.resume id = (some production, d) → production.failure? = some status →
      d = c.modifyChannel id fun channel => { channel with waitingCall := none }) ∧
    ∀ (panels : Registry Int32 Panel) (interval : Nat) (turns : List Turn) (token : DisplayToken),
      (run turns (still (.ofPanels panels interval))).compositor.projection token =
        published token (moments turns (still (.ofPanels panels interval))) :=
  ⟨fun _ _ _ => undone, fun _ _ _ _ _ _ hc hheld => Compositor.undone_resume hc hheld,
    projection_run⟩

end Studio

end ScreenCapture
