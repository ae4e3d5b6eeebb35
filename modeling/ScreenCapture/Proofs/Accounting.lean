import ScreenCapture.Capture.Probe
import ScreenCapture.Compositor.Displays
import ScreenCapture.Proofs.EventLog
import ScreenCapture.Proofs.RegistryLaws

namespace ScreenCapture

/-- A log that accounts for all displays and queues that there are. -/
structure Logged (log : List Event) (displays : List DisplayToken) (queues : List QueueId)
    (next : Nat) : Prop where
  orderly : Orderly log
  last : (books log).last < next
  displays : (books log).live.filterMap Resource.display? = displays
  queues : (books log).live.filterMap Resource.queue? = queues

namespace Logged

variable {log : List Event} {displays : List DisplayToken} {queues : List QueueId} {next : Nat}

theorem mem_queues (h : Logged log displays queues next) {id : QueueId} :
    id ∈ queues ↔ .queue id ∈ (books log).live := by
  rw [← h.queues, List.mem_filterMap]
  constructor
  · rintro ⟨r, hr, he⟩
    cases r with
    | queue _ => rwa [← Option.some.inj he]
    | display _ => cases he
  · exact fun hr => ⟨_, hr, rfl⟩

theorem mem_displays (h : Logged log displays queues next) {token : DisplayToken} :
    token ∈ displays ↔ .display token ∈ (books log).live := by
  rw [← h.displays, List.mem_filterMap]
  constructor
  · rintro ⟨r, hr, he⟩
    cases r with
    | queue _ => cases he
    | display _ => rwa [← Option.some.inj he]
  · exact fun hr => ⟨_, hr, rfl⟩

/-- The next number is not in use. -/
theorem next_not_mem (h : Logged log displays queues next) : next ∉ queues ∧ next ∉ displays := by
  constructor
  · exact fun hm => Nat.not_lt_of_le (h.orderly.live_le (h.mem_queues.mp hm)) h.last
  · exact fun hm => Nat.not_lt_of_le (h.orderly.live_le (h.mem_displays.mp hm)) h.last

theorem neutral (h : Logged log displays queues next) {e : Event} (he : e.IsNeutral)
    (ha : (books log).Admits e) : Logged (log ++ [e]) displays queues next where
  orderly := h.orderly.snoc ha
  last := by
    rw [books_snoc, he.enter]
    exact h.last
  displays := by
    rw [books_snoc, he.enter]
    exact h.displays
  queues := by
    rw [books_snoc, he.enter]
    exact h.queues

theorem poolStarted (h : Logged log displays queues next) :
    Logged (log ++ [.threadPoolStarted]) displays queues next :=
  h.neutral Event.threadPoolStarted_isNeutral trivial

theorem applied (h : Logged log displays queues next) {token : DisplayToken}
    (ht : token ∈ displays) : Logged (log ++ [.transactionApplied token]) displays queues next :=
  h.neutral (Event.transactionApplied_isNeutral token) (h.mem_displays.mp ht)

theorem opened (h : Logged log displays queues next) {r : Resource} (hr : r.number = next) :
    Logged (log ++ [r.opening]) (displays ++ r.display?.toList) (queues ++ r.queue?.toList)
      (next + 1) where
  orderly := h.orderly.snoc (Books.admits_opening.mpr (hr.symm ▸ h.last))
  last := by
    rw [books_snoc, Books.enter_opening]
    exact Nat.lt_succ_of_le (Nat.le_of_eq hr)
  displays := by
    rw [books_snoc, Books.enter_opening, List.filterMap_append, h.displays]
    cases r <;> rfl
  queues := by
    rw [books_snoc, Books.enter_opening, List.filterMap_append, h.queues]
    cases r <;> rfl

theorem closed (h : Logged log displays queues next) {r : Resource}
    (hr : r ∈ (books log).live) :
    Logged (log ++ [r.closing]) (displays.filter (.display · ≠ r)) (queues.filter (.queue · ≠ r))
      next where
  orderly := h.orderly.snoc (Books.admits_closing.mpr hr)
  last := by
    rw [books_snoc, Books.enter_closing]
    exact h.last
  displays := by
    rw [books_snoc, Books.enter_closing, List.filterMap_filter, ← h.displays,
      List.filter_filterMap]
    apply List.filterMap_congr
    intro s _
    cases s <;> simp [Resource.display?, Option.filter]
  queues := by
    rw [books_snoc, Books.enter_closing, List.filterMap_filter, ← h.queues, List.filter_filterMap]
    apply List.filterMap_congr
    intro s _
    cases s <;> simp [Resource.queue?, Option.filter]

theorem queueCreated (h : Logged log displays queues next) :
    Logged (log ++ [.queueCreated next]) displays (queues ++ [next]) (next + 1) := by
  have ho := h.opened (r := .queue next) rfl
  rwa [show displays ++ (Resource.queue next).display?.toList = displays from List.append_nil _]
    at ho

theorem displayCreated (h : Logged log displays queues next) :
    Logged (log ++ [.displayCreated next]) (displays ++ [next]) queues (next + 1) := by
  have ho := h.opened (r := .display next) rfl
  rwa [show queues ++ (Resource.display next).queue?.toList = queues from List.append_nil _] at ho

theorem queueReleased (h : Logged log displays queues next) {id : QueueId} (hid : id ∈ queues) :
    Logged (log ++ [.queueReleased id]) displays (queues.filter (· ≠ id)) next := by
  simpa [Resource.closing] using h.closed (h.mem_queues.mp hid)

theorem displayDestroyed (h : Logged log displays queues next) {token : DisplayToken}
    (ht : token ∈ displays) :
    Logged (log ++ [.displayDestroyed token]) (displays.filter (· ≠ token)) queues next := by
  simpa [Resource.closing] using h.closed (h.mem_displays.mp ht)

end Logged

/-- Who holds a queue, the renderers apart. -/
structure Custody where
  producer : Bool
  endpoint : Bool
  reader : Bool
  /-- The call that waits for the slot. -/
  call : Option Painter

def Channel.custody (channel : Channel) : Custody :=
  ⟨channel.producerHeld, channel.endpointHeld, channel.reader.isSome, channel.waitingCall⟩

namespace Compositor

def custody? (c : Compositor) (id : QueueId) : Option Custody :=
  (c.channels.find? id).map Channel.custody

/-- The queue into which a display is rendered. -/
def surface? (c : Compositor) (token : DisplayToken) : Option QueueId :=
  (c.renderer? token).map (·.surface)

/-- The log accounts for what there is in the compositor. -/
def Booked (c : Compositor) : Prop :=
  Logged c.events c.displays.keys c.channels.keys c.nextId

/-- Nothing differs that is accounted for. -/
structure Quiet (c d : Compositor) : Prop where
  events : d.events = c.events
  nextId : d.nextId = c.nextId
  displays : d.displays.keys = c.displays.keys
  queues : d.channels.keys = c.channels.keys
  custody (id : QueueId) : d.custody? id = c.custody? id
  surface (token : DisplayToken) : d.surface? token = c.surface? token

variable {c d e : Compositor} {id : QueueId} {token : DisplayToken}

theorem Booked.quiet (h : c.Booked) (hd : c.Quiet d) : d.Booked := by
  rw [Booked, hd.events, hd.displays, hd.queues, hd.nextId]
  exact h

namespace Quiet

theorem refl (c : Compositor) : c.Quiet c := ⟨rfl, rfl, rfl, rfl, fun _ => rfl, fun _ => rfl⟩

theorem trans (h : c.Quiet d) (h' : d.Quiet e) : c.Quiet e where
  events := h'.events.trans h.events
  nextId := h'.nextId.trans h.nextId
  displays := h'.displays.trans h.displays
  queues := h'.queues.trans h.queues
  custody id := (h'.custody id).trans (h.custody id)
  surface token := (h'.surface token).trans (h.surface token)

theorem modifyChannel {φ : Channel → Channel}
    (hφ : ∀ channel, c.channels.find? id = some channel →
      (φ channel).custody = channel.custody) : c.Quiet (c.modifyChannel id φ) where
  events := rfl
  nextId := rfl
  displays := rfl
  queues := Registry.keys_modify _ _ _
  custody other := by
    by_cases ho : other = id
    · subst ho
      simp only [custody?, Compositor.modifyChannel, Registry.find?_modify_self, Option.map_map]
      cases hc : c.channels.find? other with
      | none => rfl
      | some channel => exact congrArg some (hφ channel hc)
    · simp only [custody?, Compositor.modifyChannel, Registry.find?_modify_ne _ _ ho]
  surface _ := rfl

theorem setQueue (queue : Queue) : c.Quiet (c.setQueue id queue) := modifyChannel fun _ _ => rfl

theorem setPhase (phase : RenderPhase) : c.Quiet (c.setPhase token phase) where
  events := rfl
  nextId := rfl
  displays := Registry.keys_modify _ _ _
  queues := rfl
  custody _ := rfl
  surface other := by
    by_cases ho : other = token
    · subst ho
      simp only [surface?, renderer?, Compositor.setPhase, Registry.find?_modify_self]
      cases hd : c.displays.find? other with
      | none => rfl
      | some display => cases hr : display.renderer <;> simp [hr]
    · simp only [surface?, renderer?, Compositor.setPhase, Registry.find?_modify_ne _ _ ho]

theorem arm (point : FailPoint) (status : Status) : c.Quiet (c.arm point status) :=
  ⟨rfl, rfl, rfl, rfl, fun _ => rfl, fun _ => rfl⟩

theorem disarm (point : FailPoint) : c.Quiet (c.disarm point) :=
  ⟨rfl, rfl, rfl, rfl, fun _ => rfl, fun _ => rfl⟩

theorem notify (waiter : WaiterId) : c.Quiet (c.notify waiter) :=
  ⟨rfl, rfl, rfl, rfl, fun _ => rfl, fun _ => rfl⟩

theorem announce (waiter : Option WaiterId) : c.Quiet (c.announce waiter) := by
  cases waiter with
  | none => exact refl c
  | some waiter => exact notify waiter

theorem newWaiter : c.Quiet c.newWaiter.2 :=
  ⟨rfl, rfl, rfl, rfl, fun _ => rfl, fun _ => rfl⟩

theorem dropWaiter (waiter : WaiterId) : c.Quiet (c.dropWaiter waiter) :=
  ⟨rfl, rfl, rfl, rfl, fun _ => rfl, fun _ => rfl⟩

theorem takeNotice {waiter : WaiterId} (h : c.takeNotice? waiter = some d) : c.Quiet d := by
  obtain ⟨w, _, hw⟩ := Option.bind_eq_some_iff.mp h
  obtain ⟨v, _, rfl⟩ := Option.map_eq_some_iff.mp hw
  exact ⟨rfl, rfl, rfl, rfl, fun _ => rfl, fun _ => rfl⟩

theorem guarded {α : Type} {point : FailPoint} {call : Compositor → Except Status α × Compositor}
    (hcall : c.Quiet (call c).2) : c.Quiet (c.guarded point call).2 := by
  unfold Compositor.guarded
  cases c.armed point with
  | some status => exact disarm point
  | none => exact hcall

theorem connect : c.Quiet c.connect.2 := guarded (refl c)

theorem panel (id : Int32) : c.Quiet (c.panel id).2 := by
  apply guarded
  cases c.panels.find? id <;> exact refl c

theorem probe (id : Int32) : c.Quiet (c.probe id).2 := by
  have hp := panel (c := c) id
  unfold Compositor.probe
  split
  next h => rwa [h] at hp
  next h =>
    rw [h] at hp
    split <;> exact hp

theorem updateQueue (id : QueueId) (change : Queue → Except Status Queue) :
    c.Quiet (c.updateQueue id change).2 := by
  unfold Compositor.updateQueue onChannel
  cases c.channels.find? id with
  | none => exact refl c
  | some channel =>
    simp only
    cases change channel.queue with
    | error status => exact refl c
    | ok queue => exact setQueue queue

theorem disableAsync (id : QueueId) : c.Quiet (c.disableAsync id).2 := updateQueue id _

theorem setSize (id : QueueId) (width height : UInt32) :
    c.Quiet (c.setSize id width height).2 :=
  guarded (updateQueue id _)

theorem setFormat (id : QueueId) (format : FormatCode) : c.Quiet (c.setFormat id format).2 :=
  updateQueue id _

theorem listen (id : QueueId) (waiter : WaiterId) : c.Quiet (c.listen id waiter) :=
  modifyChannel fun _ _ => rfl

theorem disconnect (id : QueueId) : c.Quiet (c.disconnect id) := modifyChannel fun _ _ => rfl

theorem draw (channel : Channel) (paint : Painter) : c.Quiet (c.draw id channel paint).2 := by
  unfold Compositor.draw
  cases channel.queue.slot with
  | refused status => exact refl c
  | busy => exact refl c
  | free canvas =>
    simp only
    cases channel.queue.commit canvas (.mk fun _ => paint canvas canvas.blank) with
    | error status => exact refl c
    | ok commit => exact (setQueue commit.queue).trans (announce commit.announce)

theorem onReader {α : Type} (id : QueueId)
    (call : Reader → Queue → Except Status (α × Reader × Queue)) :
    c.Quiet (c.onReader id call).2 := by
  unfold Compositor.onReader onChannel
  cases hc : c.channels.find? id with
  | none => exact refl c
  | some channel =>
    simp only
    cases hr : channel.reader with
    | none => exact refl c
    | some reader =>
      simp only
      cases call reader channel.queue with
      | error status => exact refl c
      | ok answer =>
        apply modifyChannel
        intro other ho
        obtain rfl := Option.some.inj (hc.symm.trans ho)
        simp [Channel.custody, hr]

theorem lock (id : QueueId) : c.Quiet (c.lock id).2 := guarded (onReader id _)

theorem unlock (id : QueueId) : c.Quiet (c.unlock id).2 := onReader id _

theorem beginFrame : c.Quiet (c.beginFrame token) := by
  unfold Compositor.beginFrame
  split
  next =>
    split
    next => exact setPhase _
    next => split <;> first | exact setPhase _ | exact refl c
  next => exact refl c

theorem commitFrame : c.Quiet (c.commitFrame token) := by
  unfold Compositor.commitFrame
  split
  next =>
    split
    next => exact setPhase _
    next =>
      split
      next => exact setPhase _
      next => exact (setQueue _).trans (setPhase _)
  next => exact refl c

theorem announceFrame : c.Quiet (c.announceFrame token) := by
  unfold Compositor.announceFrame
  split
  next => exact (notify _).trans (setPhase _)
  next => exact refl c

theorem renderStep : c.Quiet (c.renderStep token) := by
  unfold Compositor.renderStep
  split
  next => exact beginFrame
  next => exact commitFrame
  next => exact announceFrame
  all_goals exact refl c

theorem foldl {part : Compositor → DisplayToken → Compositor}
    (hpart : ∀ c token, Quiet c (part c token)) (tokens : List DisplayToken) (c : Compositor) :
    c.Quiet (tokens.foldl part c) := by
  induction tokens generalizing c with
  | nil => exact refl c
  | cons token tokens ih => exact (hpart c token).trans (ih (part c token))

theorem renderAll : c.Quiet c.renderAll :=
  ((foldl (fun _ _ => beginFrame) _ c).trans (foldl (fun _ _ => commitFrame) _ _)).trans
    (foldl (fun _ _ => announceFrame) _ _)

theorem awaitNotice (waiter : WaiterId) (arrives : Bool) :
    c.Quiet (c.awaitNotice waiter arrives).2 := by
  unfold Compositor.awaitNotice
  split
  next h => exact takeNotice h
  next =>
    split
    next =>
      simp only
      split
      next h => exact renderAll.trans (takeNotice h)
      next => exact renderAll
    next => exact refl c

theorem stopRenderer (r : Renderer) : c.Quiet (c.stopRenderer r) := by
  unfold Compositor.stopRenderer
  simp only
  split
  next => exact (disconnect r.surface).trans (notify _)
  next => exact disconnect r.surface

end Quiet

/-- Releases the queue that a display showed, if nobody holds it any more. -/
def reapShown (c : Compositor) (renderer : Option Renderer) : Compositor :=
  match renderer with
  | none => c
  | some r => c.reap r.surface

/-- Lets a display show a queue. -/
def present (c : Compositor) (token : DisplayToken) (surface : QueueId) (projection : Projection) :
    Compositor :=
  { c with displays := c.displays.modify token fun d =>
      { d with projection := some projection
               renderer := some { surface, projection, phase := .waiting } } }

/-- A transaction is refused, or the display shows the queue from then on, and not what it showed
before. -/
theorem applyTransaction_cases (c : Compositor) (token : DisplayToken) (surface : QueueId)
    (projection : Projection) :
    (∃ status, (c.applyTransaction token surface projection).1 = .error status ∧
      c.Quiet (c.applyTransaction token surface projection).2) ∨
    ∃ display d, c.displays.find? token = some display ∧
      (∃ channel, c.channels.find? surface = some channel) ∧ c.Quiet d ∧
      c.applyTransaction token surface projection = (.ok (),
        ((d.present token surface projection).reapShown display.renderer).record
          (.transactionApplied token)) := by
  unfold applyTransaction Compositor.guarded
  cases c.armed .transaction with
  | some status => exact .inl ⟨status, rfl, .disarm _⟩
  | none =>
    simp only
    split
    next => exact .inl ⟨_, rfl, .refl c⟩
    next =>
      cases hd : c.displays.find? token with
      | none => exact .inl ⟨_, rfl, .refl c⟩
      | some display =>
        cases hs : c.channels.find? surface with
        | none => exact .inl ⟨_, rfl, .refl c⟩
        | some channel =>
          right
          obtain ⟨shown, renderer⟩ := display
          cases renderer with
          | none => exact ⟨_, c, rfl, ⟨channel, rfl⟩, .refl c, rfl⟩
          | some r => exact ⟨_, c.stopRenderer r, rfl, ⟨channel, rfl⟩, .stopRenderer r, rfl⟩

/-- An unknown display is ignored; another one is removed, with what it showed. -/
theorem destroyDisplay_cases (c : Compositor) (token : DisplayToken) :
    (c.displays.find? token = none ∧ c.destroyDisplay token = c) ∨
    ∃ display d, c.displays.find? token = some display ∧
      Quiet { c with displays := c.displays.erase token } d ∧
      c.destroyDisplay token =
        (d.reapShown display.renderer).record (.displayDestroyed token) := by
  unfold destroyDisplay
  cases hd : c.displays.find? token with
  | none => exact .inl ⟨rfl, rfl⟩
  | some display =>
    right
    obtain ⟨shown, renderer⟩ := display
    cases renderer with
    | none => exact ⟨_, _, rfl, .refl _, rfl⟩
    | some r => exact ⟨_, _, rfl, .stopRenderer r, rfl⟩

theorem reap_displays (c : Compositor) (id : QueueId) : (c.reap id).displays = c.displays := by
  unfold reap
  split
  next => rfl
  next => split <;> rfl

/-- Releasing a queue is recorded, whatever displays are accounted for meanwhile. -/
theorem logged_reap {displays : List DisplayToken}
    (h : Logged c.events displays c.channels.keys c.nextId) (id : QueueId) :
    Logged (c.reap id).events displays (c.reap id).channels.keys (c.reap id).nextId := by
  unfold reap
  split
  next => exact h
  next channel hf =>
    split
    next => exact h
    next =>
      have hid : id ∈ c.channels.keys := Registry.mem_keys.mpr (by rw [hf]; rfl)
      have hr := h.queueReleased hid
      rw [← Registry.keys_erase] at hr
      exact hr

theorem reapShown_displays (c : Compositor) (renderer : Option Renderer) :
    (c.reapShown renderer).displays = c.displays := by
  cases renderer with
  | none => rfl
  | some r => exact c.reap_displays r.surface

theorem logged_reapShown {displays : List DisplayToken}
    (h : Logged c.events displays c.channels.keys c.nextId) (renderer : Option Renderer) :
    Logged (c.reapShown renderer).events displays (c.reapShown renderer).channels.keys
      (c.reapShown renderer).nextId := by
  cases renderer with
  | none => exact h
  | some r => exact logged_reap h r.surface

theorem ofPanels_booked (panels : Registry Int32 Panel) (interval : Nat) :
    (ofPanels panels interval).Booked :=
  ⟨.nil, Nat.one_pos, rfl, rfl⟩

namespace Booked

theorem reap (h : c.Booked) (id : QueueId) : (c.reap id).Booked := by
  have hr := logged_reap h id
  rw [← c.reap_displays id] at hr
  exact hr

theorem modifyChannel (h : c.Booked) (id : QueueId) (φ : Channel → Channel) :
    (c.modifyChannel id φ).Booked := by
  have hk : (c.modifyChannel id φ).channels.keys = c.channels.keys := Registry.keys_modify _ _ _
  rw [Booked, hk]
  exact h

theorem guarded {α : Type} {point : FailPoint} {call : Compositor → Except Status α × Compositor}
    (h : c.Booked) (hcall : (call c).2.Booked) : (c.guarded point call).2.Booked := by
  unfold Compositor.guarded
  cases c.armed point with
  | some status => exact h.quiet (.disarm point)
  | none => exact hcall

theorem startPool (h : c.Booked) : c.startPool.Booked := by
  unfold Compositor.startPool
  split
  next => exact h
  next => exact h.poolStarted

theorem newQueue (h : c.Booked) : c.newQueue.2.Booked := by
  refine h.guarded ?_
  have hc := Logged.queueCreated h
  rw [← Registry.keys_insert h.next_not_mem.1] at hc
  exact hc

theorem newReader (h : c.Booked) (id : QueueId) (maxLocked : Nat) :
    (c.newReader id maxLocked).2.Booked := by
  refine h.guarded ?_
  unfold onChannel
  cases c.channels.find? id with
  | none => exact h
  | some channel =>
    simp only
    cases channel.queue.attachReader maxLocked with
    | error status => exact h
    | ok queue => exact h.modifyChannel id _

theorem dropProducer (h : c.Booked) (id : QueueId) : (c.dropProducer id).Booked :=
  (h.modifyChannel id _).reap id

theorem dropEndpoint (h : c.Booked) (id : QueueId) : (c.dropEndpoint id).Booked :=
  (h.modifyChannel id _).reap id

theorem dropReader (h : c.Booked) (id : QueueId) : (c.dropReader id).Booked :=
  (h.modifyChannel id _).reap id

theorem dropQueue (h : c.Booked) (id : QueueId) : (c.dropQueue id).Booked :=
  ((h.dropProducer id).dropEndpoint id).dropReader id

theorem newDisplay (h : c.Booked) : c.newDisplay.2.Booked := by
  refine h.guarded ?_
  have hc := Logged.displayCreated h
  rw [← Registry.keys_insert h.next_not_mem.2] at hc
  exact hc

theorem reapShown (h : c.Booked) (renderer : Option Renderer) :
    (c.reapShown renderer).Booked := by
  cases renderer with
  | none => exact h
  | some r => exact h.reap r.surface

theorem present (h : c.Booked) (token : DisplayToken) (surface : QueueId)
    (projection : Projection) :
    (c.present token surface projection).Booked := by
  have hk : (c.present token surface projection).displays.keys = c.displays.keys :=
    Registry.keys_modify _ _ _
  rw [Booked, hk]
  exact h

theorem applyTransaction (h : c.Booked) (token : DisplayToken) (surface : QueueId)
    (projection : Projection) : (c.applyTransaction token surface projection).2.Booked := by
  rcases c.applyTransaction_cases token surface projection with
    ⟨_, _, hq⟩ | ⟨display, d, hd, _, hq, he⟩
  · exact h.quiet hq
  · rw [he]
    have hshown := (((h.quiet hq).present token surface projection).reapShown display.renderer)
    refine Logged.applied hshown ?_
    rw [reapShown_displays, Compositor.present, Registry.keys_modify, hq.displays,
      Registry.mem_keys, hd]
    rfl

theorem destroyDisplay (h : c.Booked) (token : DisplayToken) :
    (c.destroyDisplay token).Booked := by
  rcases c.destroyDisplay_cases token with ⟨_, he⟩ | ⟨display, d, hd, hq, he⟩
  · rw [he]
    exact h
  · have ht : token ∈ c.displays.keys := Registry.mem_keys.mpr (by rw [hd]; rfl)
    -- until its end is recorded, the display is still accounted for
    have hlog : Logged d.events c.displays.keys d.channels.keys d.nextId := by
      rw [hq.events, hq.queues, hq.nextId]
      exact h
    have hend := (logged_reapShown hlog display.renderer).displayDestroyed ht
    rw [← Registry.keys_erase, ← hq.displays, ← d.reapShown_displays display.renderer] at hend
    rw [he]
    exact hend

end Booked

end Compositor

end ScreenCapture
