import ScreenCapture.Proofs.Capturing

namespace ScreenCapture.Controller

variable {k : Controller} {c : Compositor} {e : Option (Site × Feed)}

namespace Tracks

theorem running_iff (h : k.Tracks c e) :
    k.state = .awaitingFrame ∨ k.state = .frameReady ↔ ∃ o, k.manager.output = some o := by
  have hs : k.state.isRunning = k.manager.output.isSome := h.running.trans h.runs.isRunning.symm
  rw [← Option.isSome_iff_exists, ← hs]
  cases k.state <;> simp [CaptureState.isRunning]

/-- Nothing is held while a frame is ready, and without an output there is nothing to hold. -/
theorem awaiting_of_held (h : k.Tracks c e) (hh : k.isBufferHeld = true) :
    k.state = .awaitingFrame := by
  have hr : ∃ o, k.manager.output = some o := by
    obtain ⟨o, ho, _⟩ := (Option.any_eq_true _ _).mp hh
    exact ⟨o, ho⟩
  rcases h.running_iff.mpr hr with hs | hs
  · exact hs
  · have hf : k.isBufferHeld = false := h.free hs
    rw [hh] at hf
    cases hf

/-- The holder, the reader and the queue agree on whether the buffer is locked. -/
theorem lock_layers (h : k.Tracks c e) {o : VirtualOutput} (ho : k.manager.output = some o) :
    ∃ channel reader, c.channels.find? o.queue = some channel ∧ channel.reader = some reader ∧
      o.holder.isHolding = reader.data.isSome ∧ reader.data.isSome = channel.queue.locked := by
  have hr := h.runs
  cases e with
  | none =>
    have hn := hr.isRunning
    rw [OutputManager.isRunning, ho] at hn
    cases hn
  | some x =>
    obtain ⟨s, f⟩ := x
    obtain ⟨o', ho', rfl, hold⟩ := hr.owned
    obtain rfl := Option.some.inj (ho.symm.trans ho')
    have hf := hr.hosts.channels.find? (List.mem_singleton.mpr rfl)
    refine ⟨_, _, hf, rfl, ?_, ?_⟩
    · rw [hold]
      cases hl : f.locked <;> simp
    · cases hl : f.locked <;> simp [Site.channel, hl]

/-- A ready frame has an output to be locked from, and can be looked at once it is locked. -/
theorem lockNext_ready (h : k.Tracks c e) (hs : k.state = .frameReady) :
    ∃ r m d, k.manager.lockNext c = some (r, m, d) ∧
      ∀ buffer, r = .ok buffer → ∃ frame, m.frame? d = some frame := by
  have hr := h.running
  rw [hs] at hr
  cases e with
  | none => cases hr
  | some x =>
    obtain ⟨s, f⟩ := x
    obtain ⟨r, m, d, g, hlock, hlocking, _, hframe⟩ := h.runs.lockNext
    refine ⟨r, m, d, hlock, ?_⟩
    intro buffer hb
    have hf := hframe buffer hb
    cases hlocking with
    | locked _ _ _ hsize =>
      obtain rfl := Except.ok.inj hb
      rw [Site.buffer_frame? hsize] at hf
      exact ⟨_, hf⟩
    | held | armed | empty | large => cases hb

/-- What is locked is what is consumed, and a failed lock is what is answered. -/
theorem consume_ready (h : k.Tracks c e) (hs : k.state = .frameReady) :
    ∃ r m d, k.manager.lockNext c = some (r, m, d) ∧
      (∀ buffer, r = .ok buffer → ∃ frame, m.frame? d = some frame ∧
        (k.consume c).1 = .ok frame) ∧
      ∀ error, r = .error error → (k.consume c).1 = .error error := by
  obtain ⟨r, m, d, hlock, hready⟩ := h.lockNext_ready hs
  refine ⟨r, m, d, hlock, ?_, ?_⟩
  · rintro buffer rfl
    obtain ⟨frame, hframe⟩ := hready buffer rfl
    refine ⟨frame, hframe, ?_⟩
    rw [Controller.consume, if_neg (not_not_intro hs), hlock]
    simp only [hframe]
  · rintro error rfl
    rw [Controller.consume, if_neg (not_not_intro hs), hlock]

/-- No frame that is ready is refused as if there were none. -/
theorem consume_ne_invalid (h : k.Tracks c e) (hs : k.state = .frameReady)
    (operation : CaptureOperation) (state : CaptureState) :
    (k.consume c).1 ≠ .error (.invalidState operation state) := by
  obtain ⟨_, _, hmoving⟩ := h.consume_moving (h.noted hs)
  intro hr
  rw [hr] at hmoving
  cases hmoving

theorem beginWait_running (h : k.Tracks c e) (hs : k.state.isRunning = true)
    (operation : CaptureOperation) : ∃ waiter, (k.beginWait operation c).1 = .ok waiter := by
  rcases h.beginWait operation with ⟨hn, _⟩ | ⟨_, hb⟩ | ⟨s, _, _, _, _, _, hb, _⟩
  · rw [hs] at hn
    cases hn
  · exact ⟨none, by rw [hb]⟩
  · exact ⟨some s.waiter, by rw [hb]⟩

end Tracks

/-- State, pending flag, output and the locks of all layers agree, whatever a capture went through.
Therefore no operation ever meets an output, a frame or a waiter that is missing: a ready frame is
consumed unless its lock fails, and a wait of a running capture begins. -/
theorem capture_consistent (panels : Registry Int32 Panel) (interval : Nat) (id : Int32)
    (actions : List CaptureAction) :
    let s := (CaptureAction.run actions (.new id, .ofPanels panels interval)).2
    (s.1.state = .awaitingFrame ∨ s.1.state = .frameReady ↔ ∃ o, s.1.manager.output = some o) ∧
      (s.1.framePending = true ↔ s.1.state = .frameReady) ∧
      (s.1.isBufferHeld = true → s.1.state = .awaitingFrame) ∧
      (∀ o, s.1.manager.output = some o → ∃ channel reader,
        s.2.channels.find? o.queue = some channel ∧ channel.reader = some reader ∧
          o.holder.isHolding = reader.data.isSome ∧ reader.data.isSome = channel.queue.locked) ∧
      (s.1.state = .frameReady → ∃ r m d, s.1.manager.lockNext s.2 = some (r, m, d) ∧
        (∀ buffer, r = .ok buffer → ∃ frame, m.frame? d = some frame ∧
          (s.1.consume s.2).1 = .ok frame) ∧
        ∀ error, r = .error error → (s.1.consume s.2).1 = .error error) ∧
      (s.1.state = .frameReady → ∀ operation state,
        (s.1.consume s.2).1 ≠ .error (.invalidState operation state)) ∧
      (s.1.state.isRunning = true → ∀ operation, ∃ waiter,
        (s.1.beginWait operation s.2).1 = .ok waiter) := by
  intro s
  obtain ⟨e, h⟩ := CaptureAction.tracks_run actions (s := (.new id, .ofPanels panels interval))
    (new_tracks id (Compositor.ofPanels_hosts panels interval))
  have hp := h.pending
  refine ⟨h.running_iff, ?_, h.awaiting_of_held, fun o ho => h.lock_layers ho, h.consume_ready,
    h.consume_ne_invalid, h.beginWait_running⟩
  rw [hp, decide_eq_true_iff]

end ScreenCapture.Controller
