import ScreenCapture.Proofs.Fates

namespace ScreenCapture

/-- Whether a call abandons the queue: its producer lets go of it, or the display that shows it is
removed or comes to show another one. -/
def Call.Abandons (c : Compositor) (id : QueueId) : Call → Prop
  | disconnect queue => queue = id
  | destroy token => c.surface? token = some id
  | transact token surface p =>
    c.surface? token = some id ∧ (c.applyTransaction token surface p).1 = .ok ()
  | _ => False

namespace Channel

/-- The queue is abandoned and empty, and its frames were numbered up to here. -/
structure Over (channel : Channel) (next : Nat) : Prop where
  abandoned : channel.queue.abandoned = true
  empty : channel.queue.queued = none
  nextFrame : channel.queue.nextFrame = next

/-- A buffer is locked, and no other reader can be created. -/
structure Reads (channel : Channel) (data : Thunk Bytes) : Prop where
  locked : channel.reader = some ⟨some data⟩
  attached : channel.queue.hasReader = true

/-- No other reader can be created beside the one that there is. -/
def Attached (channel : Channel) : Prop :=
  channel.reader.isSome = true → channel.queue.hasReader = true

variable {channel after : Channel} {id : QueueId} {t : Studio.Turn} {next : Nat}
  {data : Thunk Bytes}

theorem over_disconnect (channel : Channel) :
    Over { channel with queue := channel.queue.disconnect } channel.queue.nextFrame :=
  ⟨rfl, rfl, rfl⟩

theorem Over.step (h : channel.Over next) {call : Call} {reply : Reply}
    (hs : channel.Step call reply after) : after.Over next := by
  cases hs with
  | kept | synced | sized | formatted | attached | unlocked =>
    exact ⟨h.abandoned, h.empty, h.nextFrame⟩
  | produced halive =>
    rw [h.abandoned] at halive
    cases halive
  | disconnected => exact ⟨rfl, rfl, h.nextFrame⟩
  | locked _ hq =>
    rw [h.empty] at hq
    cases hq
  | @dropped _ reader =>
    obtain ⟨_ | data⟩ := reader <;> exact ⟨h.abandoned, h.empty, h.nextFrame⟩

theorem Over.turned (h : channel.Over next) (ht : channel.Turned id t after) :
    after.Over next := by
  cases ht with
  | untouched => exact h
  | stepped _ hs => exact h.step hs
  | listened | letGo => exact ⟨h.abandoned, h.empty, h.nextFrame⟩
  | abandoned => exact ⟨rfl, rfl, h.nextFrame⟩
  | queued frame halive =>
    rw [h.abandoned] at halive
    cases halive

theorem Attached.step (h : channel.Attached) {call : Call} {reply : Reply}
    (hs : channel.Step call reply after) : after.Attached := by
  cases hs with
  | kept | synced | sized | formatted | produced | disconnected => exact h
  | attached => exact fun _ => rfl
  | locked hr | unlocked hr => exact fun _ => h (by rw [hr]; rfl)
  | dropped => exact nofun

theorem Attached.turned (h : channel.Attached) (ht : channel.Turned id t after) :
    after.Attached := by
  cases ht with
  | stepped _ hs => exact h.step hs
  | untouched | listened | letGo | abandoned | queued => exact h

/-- A locked buffer is given back by its reader only. -/
theorem Reads.turned (h : channel.Reads data) (ht : channel.Turned id t after)
    (hunlock : t ≠ .call (.unlock id)) (hdrop : t ≠ .call (.dropReader id)) :
    after.Reads data := by
  cases ht with
  | untouched | listened | letGo | abandoned | queued => exact ⟨h.locked, h.attached⟩
  | stepped hon hs =>
    cases hs with
    | kept | synced | sized | formatted | produced | disconnected =>
      exact ⟨h.locked, h.attached⟩
    | attached hfree =>
      rw [h.attached] at hfree
      cases hfree
    | locked hr =>
      rw [h.locked] at hr
      cases hr
    | unlocked =>
      obtain rfl := of_decide_eq_true hon
      exact absurd rfl hunlock
    | dropped =>
      obtain rfl := of_decide_eq_true hon
      exact absurd rfl hdrop

end Channel

namespace Compositor

/-- The queue is abandoned, as long as anybody still holds it, and no other will bear its number. -/
structure Ended (c : Compositor) (id : QueueId) (next : Nat) : Prop where
  past : id < c.nextId
  closed (channel : Channel) : c.channels.find? id = some channel → channel.Over next

variable {c d : Compositor} {id : QueueId} {channel : Channel} {next : Nat}

/-- Who reaps a queue leaves it as it is, or there was no reader. -/
theorem find?_reap_self (h : d.channels.find? id = some channel) (queue : QueueId) :
    (d.reap queue).channels.find? id = some channel ∨
      (d.reap queue).channels.find? id = none ∧ channel.reader = none := by
  rcases d.find?_reap queue id with hsame | ⟨_, hnone, hfree⟩
  · exact .inl (hsame.trans h)
  · exact .inr ⟨hnone, (hfree channel h).1⟩

theorem find?_stopRenderer_self (hf : c.channels.find? id = some channel) {r : Renderer}
    (hr : r.surface = id) : (c.stopRenderer r).channels.find? id =
      some { channel with queue := channel.queue.disconnect } := by
  rw [find?_stopRenderer, if_pos hr.symm, hf]
  rfl

end Compositor

namespace Call.Abandons

variable {c : Compositor} {id : QueueId} {channel : Channel} {call : Call}

/-- A queue that is abandoned is disconnected, if it is not released. -/
theorem find? (h : call.Abandons c id) (hf : c.channels.find? id = some channel) :
    (call.perform c).2.channels.find? id =
        some { channel with queue := channel.queue.disconnect } ∨
      (call.perform c).2.channels.find? id = none ∧ channel.reader = none := by
  cases call with
  | disconnect queue =>
    obtain rfl : queue = id := h
    exact .inl (Compositor.find?_modifyChannel hf _)
  | destroy token =>
    obtain ⟨display, r, hd, hr, hs⟩ := Compositor.surface?_eq_some.mp h
    rw [perform, Compositor.destroyDisplay_eq hd, hr]
    have hstopped : (Compositor.stopRenderer { c with displays := c.displays.erase token }
        r).channels.find? id = some { channel with queue := channel.queue.disconnect } :=
      Compositor.find?_stopRenderer_self (c := { c with displays := c.displays.erase token }) hf hs
    exact Compositor.find?_reap_self hstopped r.surface
  | transact token surface p =>
    obtain ⟨hshown, hok⟩ := h
    obtain ⟨display, r, hd, hr, hs⟩ := Compositor.surface?_eq_some.mp hshown
    obtain ⟨other, ho, _, he⟩ := Compositor.applyTransaction_ok hok
    obtain rfl := Option.some.inj (hd.symm.trans ho)
    rw [perform, he, hr]
    have hstopped : ((c.stopRenderer r).present token surface p).channels.find? id =
        some { channel with queue := channel.queue.disconnect } :=
      Compositor.find?_stopRenderer_self hf hs
    exact Compositor.find?_reap_self hstopped r.surface
  | _ => exact h.elim

theorem ended (h : call.Abandons c id) (hb : c.Booked) (hf : c.channels.find? id = some channel) :
    (call.perform c).2.Ended id channel.queue.nextFrame := by
  refine ⟨Nat.lt_of_lt_of_le (hb.queue_lt hf) (call.nextId_le c), fun left hleft => ?_⟩
  rcases h.find? hf with hdisconnected | ⟨hnone, _⟩
  · obtain rfl := Option.some.inj (hdisconnected.symm.trans hleft)
    exact channel.over_disconnect
  · cases hnone.symm.trans hleft

/-- A queue whose reader has a buffer locked is not released. -/
theorem reads (h : call.Abandons c id) (hf : c.channels.find? id = some channel)
    (hattached : channel.Attached) {data : Thunk Bytes}
    (hdata : channel.reader = some ⟨some data⟩) :
    ∃ left, (call.perform c).2.channels.find? id = some left ∧ left.Reads data := by
  rcases h.find? hf with hdisconnected | ⟨_, hnone⟩
  · exact ⟨_, hdisconnected, hdata, hattached (by rw [hdata]; rfl)⟩
  · rw [hdata] at hnone
    cases hnone

end Call.Abandons

namespace Fate

variable {next number : Nat} {id : QueueId} {t : Studio.Turn} {before after : Option Channel}

theorem closed (h : Fate next id t before after) (hpast : id < next)
    (hover : ∀ channel, before = some channel → channel.Over number) :
    ∀ channel, after = some channel → channel.Over number := by
  rintro channel rfl
  cases h with
  -- the number was given out before
  | created hid => exact absurd hpast (hid ▸ Nat.lt_irrefl _)
  | kept ht => exact (hover _ rfl).turned ht

theorem attached (h : Fate next id t before after)
    (hattached : ∀ channel, before = some channel → channel.Attached) :
    ∀ channel, after = some channel → channel.Attached := by
  rintro channel rfl
  cases h with
  | created => exact nofun
  | kept ht => exact (hattached _ rfl).turned ht

theorem reads {channel : Channel} {data : Thunk Bytes} (h : Fate next id t (some channel) after)
    (hr : channel.Reads data) (hunlock : t ≠ .call (.unlock id))
    (hdrop : t ≠ .call (.dropReader id)) :
    ∃ left, after = some left ∧ left.Reads data := by
  cases h with
  | kept ht => exact ⟨_, rfl, hr.turned ht hunlock hdrop⟩
  | released ht hnone =>
    have hlocked := (hr.turned ht hunlock hdrop).locked
    rw [hnone] at hlocked
    cases hlocked

end Fate

namespace Studio

/-- Whoever asks for a frame is turned away: a producer at once, or when it looks again for the slot
that it waits for, or with the frame that it has drawn meanwhile. -/
structure Refuses (s : Studio) (id : QueueId) : Prop where
  produce (paint : Painter) :
    (s.turn (.call (.produce id paint))).1 = .produced (.refused .deadObject)
  begin (thread : Nat) : s.drawing thread = none →
    (s.turn (.begin thread id)).1 = .produced (.refused .deadObject)
  finish (thread : Nat) (paint : Painter) (d : Drawing) : s.drawing thread = some d →
    d.queue = id →
    (s.turn (.finish thread paint)).1 = .produced (.finished d.canvas (.error .deadObject))
  /-- A renderer has no more to do, once the listener knows of its last frame. -/
  render (token : DisplayToken) (r : Renderer) : s.compositor.renderer? token = some r →
    r.surface = id → (∀ waiter, r.phase ≠ .announcing waiter) →
    (s.turn (.call (.render token))).2.compositor.renderer? token =
      some { r with phase := .stopped }
  lock : ∃ status, (s.turn (.call (.lock id))).1 = .locked (.error status)

end Studio

namespace Compositor

variable {c : Compositor} {id : QueueId} {next : Nat}

theorem Ended.queue? (h : c.Ended id next) : c.queue? id = none ∨
    ∃ queue, c.queue? id = some queue ∧ queue.abandoned = true ∧ queue.queued = none := by
  cases hf : c.channels.find? id with
  | none =>
    rw [Compositor.queue?, hf]
    exact .inl rfl
  | some channel =>
    rw [Compositor.queue?, hf]
    exact .inr ⟨channel.queue, rfl, (h.closed channel hf).abandoned, (h.closed channel hf).empty⟩

theorem renderer?_setPhase {token : DisplayToken} {r : Renderer}
    (h : c.renderer? token = some r) (phase : RenderPhase) :
    (c.setPhase token phase).renderer? token = some { r with phase } := by
  obtain ⟨display, hd, hr⟩ := Option.bind_eq_some_iff.mp h
  rw [renderer?, setPhase, Registry.find?_modify_self, hd]
  simp [hr]

/-- A renderer stops when it finds its surface abandoned, or gone. -/
theorem renderer?_renderStep {token : DisplayToken} {r : Renderer}
    (hr : c.renderer? token = some r) (hphase : ∀ waiter, r.phase ≠ .announcing waiter)
    (hq : ∀ queue, c.queue? r.surface = some queue → queue.abandoned = true) :
    (c.renderStep token).renderer? token = some { r with phase := .stopped } := by
  obtain ⟨surface, p, phase⟩ := r
  have hstop := renderer?_setPhase hr .stopped
  simp only [renderStep, hr]
  cases phase with
  | announcing waiter => exact absurd rfl (hphase waiter)
  | stopped => exact hr
  | waiting =>
    simp only [beginFrame, hr]
    cases hs : c.queue? surface with
    | none => exact hstop
    | some queue =>
      have hslot : queue.slot = .refused .deadObject := if_pos (hq queue hs)
      simp only [hslot]
      exact hstop
  | painting canvas =>
    simp only [commitFrame, hr]
    cases hs : c.queue? surface with
    | none => exact hstop
    | some queue =>
      have hcommit : queue.commit canvas (.mk fun _ => p.paint canvas canvas.blank) =
          .error .deadObject := if_pos (hq queue hs)
      simp only [hcommit]
      exact hstop

theorem Ended.lock (h : c.Ended id next) : ∃ status, (c.lock id).1 = .error status := by
  unfold Compositor.lock guarded
  cases c.armed .lock with
  | some status => exact ⟨status, rfl⟩
  | none =>
    simp only [onReader, onChannel]
    cases hf : c.channels.find? id with
    | none => exact ⟨_, rfl⟩
    | some channel =>
      simp only
      cases channel.reader with
      | none => exact ⟨_, rfl⟩
      | some reader =>
        simp only [Reader.lock, Queue.acquire?, (h.closed channel hf).empty]
        cases reader.data <;> exact ⟨_, rfl⟩

theorem unlock_of_locked {channel : Channel} {data : Thunk Bytes}
    (hf : c.channels.find? id = some channel) (hr : channel.reader = some ⟨some data⟩) :
    c.lockedData id = data ∧ (c.unlock id).1 = .ok () := by
  constructor
  · simp only [lockedData, hf, Option.bind_some, hr]
    rfl
  · simp only [unlock, onReader, onChannel, hf, hr]
    rfl

theorem Ended.draw (h : c.Ended id next) {channel : Channel}
    (hf : c.channels.find? id = some channel) (paint : Painter) :
    c.draw id channel paint = (.refused .deadObject, c) := by
  have hslot : channel.queue.slot = .refused .deadObject := if_pos (h.closed channel hf).abandoned
  rw [Compositor.draw, hslot]

end Compositor

namespace Studio

variable {s : Studio} {id : QueueId} {next : Nat}

theorem refuses (h : s.compositor.Ended id next) : s.Refuses id where
  produce paint := by
    cases hf : s.compositor.channels.find? id with
    | none => rw [turn, Call.perform_produce_of_none hf]
    | some channel => rw [turn, Call.perform_produce hf, h.draw hf]
  begin thread hd := by
    rcases h.queue? with hq | ⟨queue, hq, ha, _⟩
    · simp only [turn, begin, hd, hq]
    · have hslot : queue.slot = .refused .deadObject := if_pos ha
      simp only [turn, begin, hd, hq, hslot]
  finish thread paint d hd hid := by
    obtain ⟨queue, canvas, since⟩ := d
    obtain rfl : queue = id := hid
    rcases h.queue? with hq | ⟨left, hq, ha, _⟩
    · simp only [turn, finish, hd, hq]
    · have hcommit : left.commit canvas (.mk fun _ => paint canvas canvas.blank) =
          .error .deadObject := if_pos ha
      simp only [turn, finish, hd, hq, hcommit]
  render token r hr hid hphase := by
    refine Compositor.renderer?_renderStep hr hphase fun queue hq => ?_
    rw [hid] at hq
    rcases h.queue? with hnone | ⟨left, hleft, ha, _⟩
    · cases hnone.symm.trans hq
    · obtain rfl := Option.some.inj (hleft.symm.trans hq)
      exact ha
  lock := by
    obtain ⟨status, hlock⟩ := h.lock
    exact ⟨status, congrArg Reply.locked hlock⟩

theorem ended_turn (hb : s.compositor.Booked) (h : s.compositor.Ended id next) (t : Turn) :
    (s.turn t).2.compositor.Ended id next where
  past := Nat.lt_of_lt_of_le h.past (s.nextId_le t)
  closed := (fate hb t id).closed h.past h.closed

theorem ended_run (hb : s.compositor.Booked) (h : s.compositor.Ended id next)
    (turns : List Turn) : (run turns s).compositor.Ended id next := by
  induction turns generalizing s with
  | nil => exact h
  | cons t rest ih => exact ih (booked_turn hb t) (ended_turn hb h t)

/-- A locked buffer stays locked, whatever happens, until its reader lets go of it. -/
theorem reads_run (hb : s.compositor.Booked) {channel : Channel} {data : Thunk Bytes}
    (hf : s.compositor.channels.find? id = some channel) (hr : channel.Reads data)
    {turns : List Turn}
    (hkept : ∀ t ∈ turns, t ≠ .call (.unlock id) ∧ t ≠ .call (.dropReader id)) :
    ∃ left, (run turns s).compositor.channels.find? id = some left ∧ left.Reads data := by
  induction turns generalizing s channel with
  | nil => exact ⟨channel, hf, hr⟩
  | cons t rest ih =>
    obtain ⟨hunlock, hdrop⟩ := hkept t List.mem_cons_self
    have hfate := fate hb t id
    rw [hf] at hfate
    obtain ⟨left, hleft, hreads⟩ := hfate.reads hr hunlock hdrop
    exact ih (booked_turn hb t) hleft hreads fun u hu => hkept u (List.mem_cons_of_mem t hu)

theorem attached_run (panels : Registry Int32 Panel) (interval : Nat) (turns : List Turn) :
    ∀ channel, (run turns (still (.ofPanels panels interval))).compositor.channels.find? id =
      some channel → channel.Attached := by
  induction turns using List.reverseRecOn with
  | nil =>
    intro channel hf
    cases hf
  | append_singleton turns t ih =>
    rw [run_snoc]
    exact (fate (booked_run panels interval turns) t id).attached ih

/-- A queue is abandoned for good, whichever call abandoned it. Whatever happens afterwards, no
frame is queued in it or locked, not even one that was being drawn; only a buffer that is locked can
be read until it is given back. -/
theorem abandoned_for_good (panels : Registry Int32 Panel) (interval : Nat) (before : List Turn)
    {call : Call} {id : QueueId} {channel : Channel} (hfound :
      (run before (still (.ofPanels panels interval))).compositor.channels.find? id = some channel)
    (hcall : call.Abandons (run before (still (.ofPanels panels interval))).compositor id)
    (after : List Turn) :
    let s := run (before ++ .call call :: after) (still (.ofPanels panels interval))
    (∀ left, s.compositor.channels.find? id = some left → left.Over channel.queue.nextFrame) ∧
      s.Refuses id ∧
      ∀ data, channel.reader = some ⟨some data⟩ →
        (∀ t ∈ after, t ≠ .call (.unlock id) ∧ t ≠ .call (.dropReader id)) →
        s.compositor.lockedData id = data ∧
          (s.turn (.call (.unlock id))).1 = .told (.ok ()) := by
  intro s
  have hb := booked_run panels interval before
  have hattached := attached_run panels interval before channel hfound
  have hs : s = run after ((run before (still (.ofPanels panels interval))).turn (.call call)).2 :=
    List.foldl_append
  generalize run before (still (.ofPanels panels interval)) = r at hfound hcall hb hs
  have hnext := booked_turn hb (.call call)
  have hended := ended_run hnext (hcall.ended hb hfound) after
  rw [← hs] at hended
  refine ⟨hended.closed, refuses hended, fun data hdata hkept => ?_⟩
  obtain ⟨first, hfirst, hreads⟩ := hcall.reads hfound hattached hdata
  obtain ⟨left, hleft, hlocked, _⟩ := reads_run hnext hfirst hreads hkept
  rw [← hs] at hleft
  obtain ⟨hbytes, hunlock⟩ := Compositor.unlock_of_locked hleft hlocked
  exact ⟨hbytes, congrArg Reply.told hunlock⟩

/-- The display is removed while one frame is locked, one is queued and one is being drawn. -/
theorem abandoned_for_good_drawing :
    let p : Projection := ⟨.rotation0, .ofSize 1 1, .ofSize 1 1⟩
    let before : List Turn := [.call .newQueue, .call (.newReader 1 1), .call .newDisplay,
      .call (.transact 2 1 p), .call (.produce 1 (fun _ _ => #[0])), .call (.lock 1),
      .call (.produce 1 (fun _ _ => #[1])), .begin 0 1]
    let drawing : Drawing := ⟨1, ⟨1, 1, 32, .rgba8888⟩, 2⟩
    let s := run before (still (.ofPanels .empty 0))
    let t := run (before ++ [.call (.destroy 2)]) (still (.ofPanels .empty 0))
    (Call.destroy 2).Abandons s.compositor 1 ∧ s.drawing 0 = some drawing ∧
      (∀ left, t.compositor.channels.find? 1 = some left → left.Over 2) ∧
      (t.turn (.finish 0 (fun _ _ => #[2]))).1 =
        .produced (.finished drawing.canvas (.error .deadObject)) ∧
      (t.compositor.lockedData 1).get = #[0] ∧
      (t.turn (.call (.unlock 1))).1 = .told (.ok ()) := by
  intro p before drawing s t
  have hcall : (Call.destroy 2).Abandons s.compositor 1 := rfl
  let queue : Queue :=
    { Queue.fresh with
      hasReader := true, locked := true, nextFrame := 2
      queued := some ⟨drawing.canvas, 1, .mk fun _ => #[1]⟩ }
  have hfound : s.compositor.channels.find? 1 =
      some ⟨queue, some ⟨some (.mk fun _ => #[0])⟩, true, true, none⟩ := rfl
  obtain ⟨hover, hrefuses, hreads⟩ := abandoned_for_good .empty 0 before hfound hcall []
  obtain ⟨hbytes, hunlock⟩ := hreads _ rfl nofun
  exact ⟨hcall, rfl, hover, hrefuses.finish 0 (fun _ _ => #[2]) drawing rfl rfl,
    congrArg Thunk.get hbytes, hunlock⟩

end Studio

end ScreenCapture
