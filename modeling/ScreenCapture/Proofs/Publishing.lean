import ScreenCapture.Proofs.Abandonment

namespace ScreenCapture

namespace Compositor

/-- Where the renderer of a display draws, and through which projection. -/
def target? (c : Compositor) (token : DisplayToken) : Option (QueueId × Projection) :=
  (c.renderer? token).map fun r => (r.surface, r.projection)

variable {c d : Compositor} {token shown : DisplayToken} {surface id : QueueId} {p : Projection}
  {channel : Channel}

theorem target?_congr (h : d.displays.find? token = c.displays.find? token) :
    d.target? token = c.target? token := by
  rw [target?, renderer?, h]
  rfl

theorem target?_setPhase (c : Compositor) (shown token : DisplayToken) (phase : RenderPhase) :
    (c.setPhase shown phase).target? token = c.target? token := by
  by_cases ht : token = shown
  · subst ht
    simp only [target?, renderer?, setPhase, Registry.find?_modify_self]
    cases c.displays.find? token with
    | none => rfl
    | some display => cases hr : display.renderer <;> simp [hr]
  · exact target?_congr (Registry.find?_modify_ne _ _ ht)

theorem target?_renderStep (c : Compositor) (shown token : DisplayToken) :
    (c.renderStep shown).target? token = c.target? token :=
  renderStep_keeps (·.target? token) (fun c => c.target?_setPhase shown token)
    (fun _ _ _ => rfl) (fun _ _ => rfl) c

theorem displays_applyTransaction (h : (c.applyTransaction token surface p).1 = .ok ()) :
    (c.applyTransaction token surface p).2.displays = c.displays.modify token fun d =>
      { d with projection := some p, renderer := some ⟨surface, p, .waiting⟩ } := by
  obtain ⟨display, _, _, he⟩ := applyTransaction_ok h
  rw [he]
  cases display.renderer with
  | none => rfl
  | some r =>
    have hpresent := (((c.stopRenderer r).present token surface p).reap_displays r.surface)
    refine hpresent.trans ?_
    rw [present, displays_stopRenderer]

theorem renderer?_applyTransaction (h : (c.applyTransaction token surface p).1 = .ok ()) :
    (c.applyTransaction token surface p).2.renderer? token = some ⟨surface, p, .waiting⟩ := by
  obtain ⟨display, hd, _, _⟩ := applyTransaction_ok h
  rw [renderer?, displays_applyTransaction h, Registry.find?_modify_self, hd]
  rfl

theorem displays_destroyDisplay {display : VirtualDisplay}
    (h : c.displays.find? token = some display) :
    (c.destroyDisplay token).displays = c.displays.erase token := by
  rw [destroyDisplay_eq h]
  cases display.renderer with
  | none => rfl
  | some r => exact (reap_displays _ _).trans (displays_stopRenderer _ r)

/-- A transaction succeeds unless it is made to fail, has nothing to show, or there is no such
display. -/
theorem applyTransaction_ok_iff (hf : c.channels.find? surface = some channel) :
    (c.applyTransaction token surface p).1 = .ok () ↔ c.armed .transaction = none ∧
      p.layerStack.isEmpty = false ∧ p.visible.isEmpty = false ∧
      (c.displays.find? token).isSome = true := by
  unfold applyTransaction guarded
  cases c.armed .transaction with
  | some status => simp
  | none =>
    cases p.layerStack.isEmpty <;> cases p.visible.isEmpty <;> simp
    cases hd : c.displays.find? token with
    | none => simp
    | some display => simp [hf]

/-- A surface that the display did not show before is left as it is. -/
theorem find?_applyTransaction_ne (h : (c.applyTransaction token surface p).1 = .ok ())
    (hf : c.channels.find? surface = some channel) (hne : c.surface? token ≠ some surface) :
    (c.applyTransaction token surface p).2.channels.find? surface = some channel := by
  obtain ⟨display, hd, _, he⟩ := applyTransaction_ok h
  rw [he]
  cases hr : display.renderer with
  | none => exact hf
  | some r =>
    have hs : surface ≠ r.surface := fun hs =>
      hne (surface?_eq_some.mpr ⟨display, r, hd, hr, hs.symm⟩)
    have hstopped : ((c.stopRenderer r).present token surface p).channels.find? surface =
        some channel := by
      have hsame := c.find?_stopRenderer r surface
      rw [if_neg hs] at hsame
      exact hsame.trans hf
    rcases find?_reap ((c.stopRenderer r).present token surface p) r.surface surface with
      hsame | ⟨hs', _⟩
    · exact hsame.trans hstopped
    · exact absurd hs' hs

/-- A surface that the display showed before is abandoned, though the display goes on to show it. -/
theorem find?_applyTransaction_self (h : (c.applyTransaction token surface p).1 = .ok ())
    (hf : c.channels.find? surface = some channel) (hshown : c.surface? token = some surface) :
    (c.applyTransaction token surface p).2.channels.find? surface =
      some { channel with queue := channel.queue.disconnect } := by
  obtain ⟨display, r, hd, hr, hs⟩ := surface?_eq_some.mp hshown
  obtain ⟨other, ho, _, he⟩ := applyTransaction_ok h
  obtain rfl := Option.some.inj (hd.symm.trans ho)
  rw [he, hr]
  have hstopped : ((c.stopRenderer r).present token surface p).channels.find? surface =
      some { channel with queue := channel.queue.disconnect } := find?_stopRenderer_self hf hs
  rcases find?_reap ((c.stopRenderer r).present token surface p) r.surface surface with
    hsame | ⟨_, _, hfree⟩
  · exact hsame.trans hstopped
  · -- it is not released, for it is shown again
    have hd' : ((c.stopRenderer r).present token surface p).displays.find? token =
        some ⟨some p, some ⟨surface, p, .waiting⟩⟩ := by
      rw [present, displays_stopRenderer, Registry.find?_modify_self, hd]
      rfl
    have hnow := isShown_iff.mpr ⟨token, surface?_eq_some.mpr ⟨_, _, hd', rfl, rfl⟩⟩
    cases hnow.symm.trans (hfree _ hstopped).2

/-- Two sections of a renderer that finds a free slot, and the frame that it draws is queued. -/
theorem find?_renderStep_twice (hr : c.renderer? token = some ⟨surface, p, .waiting⟩)
    (hf : c.channels.find? surface = some channel) {canvas : Canvas}
    (hfree : channel.queue.slot = .free canvas) :
    ((c.renderStep token).renderStep token).channels.find? surface =
      some { channel with queue := { channel.queue with
        queued := some (channel.painted p.paint), nextFrame := channel.queue.nextFrame + 1 } } := by
  obtain ⟨halive, _, rfl⟩ := Queue.slot_eq_free hfree
  have hq : c.queue? surface = some channel.queue := by rw [queue?, hf]; rfl
  have hfirst : c.renderStep token = c.setPhase token (.painting channel.queue.canvas) := by
    simp only [renderStep, hr, beginFrame, hq, hfree]
  have hr' := renderer?_setPhase hr (.painting channel.queue.canvas)
  have hq' : (c.setPhase token (.painting channel.queue.canvas)).queue? surface =
      some channel.queue := hq
  rw [hfirst]
  simp only [renderStep, hr', commitFrame, hq', Queue.commit_of_alive halive]
  exact find?_modifyChannel hf _

end Compositor

/-- What a display draws into changes as it is published, and by nothing else. -/
theorem Call.target?_perform {c : Compositor} {call : Call} {token : DisplayToken}
    (h : call.publishes? token (call.perform c).1 = none) :
    (call.perform c).2.target? token = c.target? token := by
  have hothers := displays_perform c call
  cases call with
  | newDisplay =>
    simp only [perform, Compositor.newDisplay, Compositor.guarded] at h ⊢
    cases ha : c.armed .newDisplay with
    | some status => exact Compositor.target?_congr rfl
    | none =>
      rw [ha] at h
      have hne : token ≠ c.nextId := by
        rintro rfl
        simp [publishes?, Compositor.takeId] at h
      exact Compositor.target?_congr (Registry.find?_insert_ne _ _ hne)
  | transact other surface p =>
    cases hresult : (c.applyTransaction other surface p).1 with
    | error status =>
      have hsame := (Compositor.undone_applyTransaction (failed?_eq_some.mpr hresult)).displays
      exact Compositor.target?_congr (by rw [perform, hsame])
    | ok =>
      have hne : token ≠ other := by
        rintro rfl
        simp [publishes?, perform, hresult] at h
      refine Compositor.target?_congr ?_
      rw [perform, Compositor.displays_applyTransaction hresult]
      exact Registry.find?_modify_ne _ _ hne
  | destroy other =>
    have hne : token ≠ other := by
      rintro rfl
      simp [publishes?] at h
    refine Compositor.target?_congr ?_
    cases hd : c.displays.find? other with
    | none => rw [perform, Compositor.destroyDisplay, hd]
    | some display =>
      rw [perform, Compositor.displays_destroyDisplay hd]
      exact Registry.find?_erase_ne _ hne
  | render shown => exact c.target?_renderStep shown token
  | arm | startPool | connect | panel | newQueue | disableAsync | setSize | setFormat | newReader
  | newWaiter | dropWaiter | takeNotice | listen | produce | disconnect | lock | unlock
  | dropProducer | dropEndpoint | dropReader =>
    exact Compositor.target?_congr (by rw [hothers (by simp) (by simp) (by simp) (by simp)])

namespace Studio

variable {s : Studio} {token : DisplayToken}

theorem target?_turn {t : Turn} (h : Moment.publishes? ⟨s, t⟩ token = none) :
    (s.turn t).2.compositor.target? token = s.compositor.target? token := by
  cases t with
  | call call => exact Call.target?_perform h
  | begin thread id =>
    exact Compositor.target?_congr (congrArg (·.find? token) (s.displays_begin thread id))
  | finish thread paint =>
    exact Compositor.target?_congr (congrArg (·.find? token) (s.displays_finish thread paint))

theorem target?_run {turns : List Turn}
    (h : ∀ x ∈ moments turns s, x.publishes? token = none) :
    (run turns s).compositor.target? token = s.compositor.target? token := by
  induction turns generalizing s with
  | nil => rfl
  | cons t rest ih =>
    have hfirst := target?_turn (h ⟨s, t⟩ List.mem_cons_self)
    exact (ih fun x hx => h x (List.mem_cons_of_mem _ hx)).trans hfirst

/-- What a transaction makes of the surface that it publishes. The surface is left as it is, and
until something else is published for the display, its renderer queues a frame through the new
projection whenever it finds a free slot. But a surface that the display showed before is abandoned,
with the frame that waits in it, and the renderer stops at once. -/
theorem published_surface (s : Studio) {surface : QueueId} {channel : Channel}
    (hfound : s.compositor.channels.find? surface = some channel) (token : DisplayToken)
    (p : Projection) :
    let x : Moment := ⟨s, .call (.transact token surface p)⟩
    (x.reply = .told (.ok ()) ↔ s.compositor.armed .transaction = none ∧
      p.layerStack.isEmpty = false ∧ p.visible.isEmpty = false ∧
      (s.compositor.displays.find? token).isSome = true) ∧
    (x.reply = .told (.ok ()) →
      x.after.compositor.renderer? token = some ⟨surface, p, .waiting⟩ ∧
      (s.compositor.surface? token ≠ some surface →
        x.after.compositor.channels.find? surface = some channel) ∧
      (s.compositor.surface? token = some surface →
        x.after.compositor.channels.find? surface =
            some { channel with queue := channel.queue.disconnect } ∧
          (run [.call (.render token)] x.after).compositor.renderer? token =
            some ⟨surface, p, .stopped⟩) ∧
      ∀ after, (∀ y ∈ moments after x.after, y.publishes? token = none) →
        let t := run after x.after
        t.compositor.target? token = some (surface, p) ∧
        ∀ left canvas, t.compositor.renderer? token = some ⟨surface, p, .waiting⟩ →
          t.compositor.channels.find? surface = some left → left.queue.slot = .free canvas →
          (run [.call (.render token), .call (.render token)] t).compositor.channels.find? surface =
            some { left with queue := { left.queue with
              queued := some (left.painted p.paint)
              nextFrame := left.queue.nextFrame + 1 } }) := by
  intro x
  have hreply : x.reply = .told (.ok ()) ↔
      (s.compositor.applyTransaction token surface p).1 = .ok () :=
    ⟨fun h => Reply.told.inj h, fun h => congrArg Reply.told h⟩
  refine ⟨hreply.trans (Compositor.applyTransaction_ok_iff hfound), fun h => ?_⟩
  have hok := hreply.mp h
  have hrenderer : x.after.compositor.renderer? token = some ⟨surface, p, .waiting⟩ :=
    Compositor.renderer?_applyTransaction hok
  refine ⟨hrenderer, Compositor.find?_applyTransaction_ne hok hfound, fun hshown => ?_,
    fun after hkept => ?_⟩
  · have hafter : x.after.compositor.channels.find? surface =
        some { channel with queue := channel.queue.disconnect } :=
      Compositor.find?_applyTransaction_self hok hfound hshown
    refine ⟨hafter, Compositor.renderer?_renderStep hrenderer nofun fun queue hq => ?_⟩
    rw [Compositor.queue?, hafter] at hq
    cases hq
    rfl
  · have htarget : x.after.compositor.target? token = some (surface, p) := by
      rw [Compositor.target?, hrenderer]
      rfl
    refine ⟨(target?_run hkept).trans htarget, fun left canvas hr hf hfree => ?_⟩
    exact Compositor.find?_renderStep_twice hr hf hfree

/-- A display comes to show a queue in which a frame waits already. -/
theorem published_surface_moved :
    let p : Projection := ⟨.rotation0, .ofSize 1 1, .ofSize 1 1⟩
    let q : Projection := ⟨.rotation180, .ofSize 1 1, .ofSize 1 1⟩
    let s := run [.call .newQueue, .call .newQueue, .call .newDisplay, .call (.transact 3 2 p),
      .call (.produce 1 (fun _ _ => #[0]))] (still (.ofPanels .empty 0))
    let x : Moment := ⟨s, .call (.transact 3 1 q)⟩
    let queue : Queue :=
      { Queue.fresh with
        nextFrame := 1, queued := some ⟨⟨1, 1, 32, .rgba8888⟩, 0, .mk fun _ => #[0]⟩ }
    let channel : Channel := ⟨queue, none, true, true, none⟩
    s.compositor.surface? 3 = some 2 ∧ x.reply = .told (.ok ()) ∧
      x.after.compositor.channels.find? 1 = some channel ∧
      (run [.call (.render 3), .call (.render 3)] x.after).compositor.channels.find? 1 =
        some { channel with
          queue := { queue with nextFrame := 2, queued := some (channel.painted q.paint) } } := by
  intro p q s x queue channel
  have hfound : s.compositor.channels.find? 1 = some channel := rfl
  obtain ⟨hiff, hpublished⟩ := published_surface s hfound 3 q
  have hok : x.reply = .told (.ok ()) := hiff.mpr ⟨rfl, rfl, rfl, rfl⟩
  obtain ⟨hrenderer, hkept, _, hdraws⟩ := hpublished hok
  have hshown : s.compositor.surface? 3 = some 2 := rfl
  have hafter := hkept (by rw [hshown]; decide)
  have hfree : channel.queue.slot = .free ⟨1, 1, 32, .rgba8888⟩ := by
    dsimp only [channel, queue]
    rfl
  have hdrawn := (hdraws [] nofun).2 channel _ hrenderer hafter hfree
  exact ⟨hshown, hok, hafter, hdrawn⟩

/-- A display whose projection alone is to change: the frame that waits is lost, and no other can be
queued. -/
theorem republished_surface_lost :
    let p : Projection := ⟨.rotation0, .ofSize 1 1, .ofSize 1 1⟩
    let q : Projection := ⟨.rotation180, .ofSize 1 1, .ofSize 1 1⟩
    let s := run [.call .newQueue, .call .newDisplay, .call (.produce 1 (fun _ _ => #[0])),
      .call (.transact 2 1 p)] (still (.ofPanels .empty 0))
    let t := (s.turn (.call (.transact 2 1 q))).2
    (s.turn (.call (.transact 2 1 q))).1 = .told (.ok ()) ∧
      (s.compositor.queue? 1).map (fun queue => (queue.abandoned, queue.queued.isSome)) =
        some (false, true) ∧
      (t.compositor.queue? 1).map (fun queue => (queue.abandoned, queue.queued.isSome)) =
        some (true, false) ∧
      (t.turn (.call (.produce 1 (fun _ _ => #[1])))).1 = .produced (.refused .deadObject) ∧
      (run [.call (.render 2)] t).compositor.renderer? 2 = some ⟨1, q, .stopped⟩ :=
  ⟨rfl, rfl, rfl, rfl, rfl⟩

end Studio

end ScreenCapture
