import ScreenCapture.Proofs.Keeping

namespace ScreenCapture

/-- A noted frame stays noted until it is consumed, or its output is given up. -/
theorem Moving.pends {c : Compositor} {p : OutputParams} {s : Site} {f : Feed} {noted' : Bool}
    {answer : Answer} {e : Option (Site × Feed)}
    (h : Moving c p (some (s, f)) true answer e noted') (hk : answer.replaces = false)
    (hn : answer.isFrame = false) : (∃ g, e = some (s, g)) ∧ noted' = true := by
  cases h with
  | set | waitRefused | ready => exact ⟨⟨f, rfl⟩, rfl⟩
  | lockFailed => exact ⟨⟨_, rfl⟩, rfl⟩
  | consumed => cases hn
  | applyRefused | applied | released => cases hk

/-- A frame that cannot be described is not consumed. -/
theorem Moving.not_isFrame {c : Compositor} {p : OutputParams} {s : Site} {f : Feed}
    {noted noted' : Bool} {answer : Answer} {e : Option (Site × Feed)}
    (h : Moving c p (some (s, f)) noted answer e noted')
    (hlarge : ∀ n, (s.buffer n).size? = none) : answer.isFrame = false := by
  cases h with
  | @consumed _ _ n size _ _ hsize =>
    rw [hlarge n] at hsize
    cases hsize
  | _ => rfl

theorem Moving.lock_fails {c : Compositor} {p : OutputParams} {s : Site} {f : Feed} {noted' : Bool}
    {r : Except CaptureError Frame} {e : Option (Site × Feed)}
    (h : Moving c p (some (s, f)) true (.consumed r) e noted')
    (hn : (Answer.consumed r).isFrame = false) : ∃ status, r = .error (.lockFailed status) := by
  cases h with
  | lockFailed => exact ⟨_, rfl⟩
  | consumed => cases hn

namespace CaptureAction

/-- The output runs, and a frame of it is noted. -/
def Pends (site : Site) (s : Controller × Compositor) : Prop :=
  (∃ f, s.1.Tracks s.2 (some (site, f))) ∧ s.1.framePending = true

variable {site : Site} {s : Controller × Compositor} {consumed : Nat}

theorem Pends.state (h : Pends site s) : s.1.state = .frameReady := by
  obtain ⟨⟨f, htracks⟩, hp⟩ := h
  exact htracks.frameReady hp

theorem Pends.step (h : Pends site s) {a : CaptureAction} (ha : a.replaces = false)
    (hn : (a.step s).1.countP Answer.isFrame = 0) : Pends site (a.step s).2 := by
  obtain ⟨⟨f, htracks⟩, hp⟩ := h
  cases a with
  | operate op =>
    obtain ⟨answer, k', d, e', he, hd⟩ := htracks.perform op
    have hanswer : answer.replaces = false := (Operation.replaces_answer he).trans ha
    have hmoving := hd.moving
    simp only [CaptureAction.step, he] at hn ⊢
    rw [List.countP_singleton] at hn
    rw [hp] at hmoving
    obtain ⟨⟨g, rfl⟩, hp'⟩ := hmoving.pends hanswer (by simpa using hn)
    exact ⟨⟨g, hd.tracks⟩, hp'⟩
  | happen x =>
    obtain ⟨parts, hd⟩ := htracks.happen x
    exact ⟨⟨f.renders parts, hd⟩, hp⟩

theorem Pends.run (actions : List CaptureAction) (h : Pends site s)
    (hk : ∀ a ∈ actions, a.replaces = false)
    (hn : (run actions s).1.countP Answer.isFrame = 0) : Pends site (run actions s).2 := by
  induction actions generalizing s with
  | nil => exact h
  | cons a rest ih =>
    simp only [CaptureAction.run, List.countP_append] at hn ⊢
    have h' := h.step (hk a List.mem_cons_self) (by omega)
    exact ih h' (fun b hb => hk b (List.mem_cons_of_mem a hb)) (by omega)

theorem Pends.consume_large (h : Pends site s) (hlarge : ∀ n, (site.buffer n).size? = none) :
    ∃ status, (s.1.consume s.2).1 = .error (.lockFailed status) := by
  obtain ⟨⟨f, htracks⟩, hp⟩ := h
  obtain ⟨_, _, hmoving⟩ := htracks.consume_moving hp
  exact hmoving.lock_fails (hmoving.not_isFrame hlarge)

theorem Pends.step_large (h : Pends site s) (hlarge : ∀ n, (site.buffer n).size? = none)
    (a : CaptureAction) : (a.step s).1.countP Answer.isFrame = 0 := by
  obtain ⟨⟨f, htracks⟩, _⟩ := h
  cases a with
  | operate op =>
    obtain ⟨answer, k', d, e', he, hd⟩ := htracks.perform op
    simp only [CaptureAction.step, he, List.countP_singleton, hd.moving.not_isFrame hlarge]
    rfl
  | happen x => rfl

/-- Frames that are too large are not consumed, as long as the output runs. -/
theorem Pends.run_large (actions : List CaptureAction) (h : Pends site s)
    (hlarge : ∀ n, (site.buffer n).size? = none) (hk : ∀ a ∈ actions, a.replaces = false) :
    (CaptureAction.run actions s).1.countP Answer.isFrame = 0 := by
  induction actions generalizing s with
  | nil => rfl
  | cons a rest ih =>
    have hstep := h.step_large hlarge a
    have h' := h.step (hk a List.mem_cons_self) hstep
    have hrest := ih h' fun b hb => hk b (List.mem_cons_of_mem a hb)
    simp only [CaptureAction.run, List.countP_append]
    omega

theorem Pends.consume_armed (h : Pends site s) {status : Status}
    (ha : s.2.armed .lock = some status) :
    (s.1.consume s.2).1 = .error (.lockFailed status.name) := by
  have hs := h.state
  obtain ⟨⟨f, htracks⟩, _⟩ := h
  obtain ⟨r, m, d, g, hlock, hlocking, _, _⟩ := htracks.runs.lockNext
  have hfree := htracks.unlocked hs
  rw [Controller.consume, if_neg (not_not_intro hs)]
  simp only [hlock]
  cases hlocking with
  | held hl =>
    rw [hfree] at hl
    cases hl
  | armed _ harmed => rw [Option.some.inj (ha.symm.trans harmed)]
  | empty _ hnone | large _ hnone | locked _ hnone =>
    rw [ha] at hnone
    cases hnone

/-- The frame that is due waits in the queue once it is noted. -/
theorem Keeps.queued (h : Keeps site s consumed) (hp : s.1.framePending = true) :
    (s.2.queue? site.queue).bind (·.queued) = some (site.frame consumed) := by
  obtain ⟨f, htracks, hf⟩ := h
  rw [hp] at hf
  obtain ⟨n, hq⟩ := hf.balanced.queued
  have hhosts : s.2.Hosts [(site, f)] := htracks.runs.hosts
  rw [hhosts.queue? (List.mem_singleton.mpr rfl), ← hf.numbered.2 n hq]
  simp [Site.channel, hq]

end CaptureAction

namespace Controller

variable {k : Controller} {c : Compositor}

/-- A noted frame is one of the output that runs. -/
theorem Tracks.pending_output {e : Option (Site × Feed)} (h : k.Tracks c e)
    (hp : k.framePending = true) :
    ∃ s f o, e = some (s, f) ∧ k.manager.output = some o ∧ o.site = s := by
  cases e with
  | none =>
    have hr := h.running
    rw [h.frameReady hp] at hr
    cases hr
  | some x =>
    obtain ⟨s, f⟩ := x
    obtain ⟨o, ho, hsite, _⟩ := h.runs.owned
    exact ⟨s, f, o, rfl, ho, hsite⟩

/-- A noted frame is in the queue and stays there until it is consumed, which only an injected
failure delays, provided its size fits in a word. If the size does not fit, no attempt ever
succeeds, and the capture cannot get on until its output is replaced. -/
theorem pending_frame_kept (panels : Registry Int32 Panel) (interval : Nat) (id : Int32)
    (before : List CaptureAction) :
    let s := (CaptureAction.run before (.new id, .ofPanels panels interval)).2
    s.1.framePending = true → ∃ o, s.1.manager.output = some o ∧
      (o.params.frameSize < 2 ^ 32 → ∃ queued frame,
        (Reader.describe queued).frame? queued.data = some frame ∧
        ∀ between : List CaptureAction, (∀ a ∈ between, a.replaces = false) →
          let (since, k, c) := CaptureAction.run between s
          since.countP Answer.isFrame = 0 →
            k.state = .frameReady ∧ (c.queue? o.queue).bind (·.queued) = some queued ∧
              (c.armed .lock = none → (k.consume c).1 = .ok frame) ∧
              ∀ status, c.armed .lock = some status →
                (k.consume c).1 = .error (.lockFailed status.name)) ∧
      (o.params.alignedWidth < 2 ^ 32 → 2 ^ 32 ≤ o.params.frameSize →
        ∀ between : List CaptureAction, (∀ a ∈ between, a.replaces = false) →
          let (since, k, c) := CaptureAction.run between s
          since.countP Answer.isFrame = 0 ∧ k.state = .frameReady ∧
            ∃ status, (k.consume c).1 = .error (.lockFailed status)) := by
  have h0 := new_tracks id (Compositor.ofPanels_hosts panels interval)
  obtain ⟨e, h, hconsumable⟩ := CaptureAction.consumable_run before
    (s := (.new id, .ofPanels panels interval)) h0 nofun
  intro s hp
  obtain ⟨site, f, o, rfl, ho, rfl⟩ := h.pending_output hp
  obtain ⟨hz, hcoherent⟩ := hconsumable o.site f rfl
  have hpends : CaptureAction.Pends o.site s := ⟨⟨f, h⟩, hp⟩
  refine ⟨o, ho, fun hsize => ?_, fun hw hlarge between hk => ?_⟩
  · obtain ⟨consumed, hf⟩ := hcoherent hsize
    have hkeeps : CaptureAction.Keeps o.site s consumed := ⟨f, h, hf⟩
    have hdescribed := Site.buffer_frame? (Site.buffer_size? (s := o.site) hz hsize consumed)
    refine ⟨o.site.frame consumed, _, hdescribed, ?_⟩
    intro between hk hn
    -- no frame is consumed in between, so the one that is due then is the one that is due now
    have hpends' := hpends.run between hk hn
    have hkeeps' := hkeeps.run between hz hsize hk
    rw [hn, Nat.add_zero] at hkeeps'
    refine ⟨hpends'.state, hkeeps'.queued hpends'.2, fun ha => ?_, fun _ => hpends'.consume_armed⟩
    obtain ⟨frame, hframe⟩ := hkeeps'.consumes hz hsize hpends'.state ha
    rw [hframe, hkeeps'.captures hz hsize hframe]
  · have hnone := Site.buffer_size?_eq_none (s := o.site) hw hlarge
    have hn := hpends.run_large between hnone hk
    have hpends' := hpends.run between hk hn
    exact ⟨hn, hpends'.state, hpends'.consume_large hnone⟩

/-- A lock is made to fail, and the second attempt returns the frame. -/
theorem pending_frame_kept_retried :
    let s := (CaptureAction.run
      [.operate (.setDesired (.ofGeometry 2 2 .rotation0)),
        .operate (.setReal (.ofGeometry 1 1 .rotation0)), .operate .apply, .operate .wait]
      (.new 0, .standard)).2
    let t := (CaptureAction.run [.happen (.arm .lock .deadObject), .operate .consume] s).2
    t.1.state = .frameReady ∧ ∃ frame, (t.1.consume t.2).1 = .ok frame := by
  obtain ⟨o, ho, hkept, _⟩ := pending_frame_kept Compositor.standardPanels
    Compositor.standardInterval 0
    [.operate (.setDesired (.ofGeometry 2 2 .rotation0)),
      .operate (.setReal (.ofGeometry 1 1 .rotation0)), .operate .apply, .operate .wait] rfl
  obtain rfl := Option.some.inj ho
  obtain ⟨_, frame, _, hframe⟩ := hkept (by decide)
  have hkeep : ∀ a ∈ [CaptureAction.happen (.arm .lock .deadObject), .operate .consume],
      a.replaces = false := by
    simp [CaptureAction.replaces, Operation.replaces]
  obtain ⟨hstate, _, hconsume, _⟩ := hframe _ hkeep rfl
  exact ⟨hstate, frame, hconsume rfl⟩

/-- A frame of 4 gigabytes is announced, and lost in the attempt to consume it. -/
theorem pending_frame_lost :
    let (_, k, c) := CaptureAction.run
      [.operate (.setDesired (.ofGeometry 1 33554432 .rotation0)),
        .operate (.setReal (.ofGeometry 1 1 .rotation0)), .operate .apply, .operate .wait]
      (.new 0, .standard)
    let (r, k', d) := k.consume c
    k.framePending = true ∧ c.armed .lock = none ∧ r = .error (.lockFailed Status.badValue.name) ∧
      k'.state = .frameReady ∧ k'.framePending = true ∧ (d.queue? 1).map (·.queued) = some none ∧
      (k'.consume d).1 = .error (.lockFailed Status.notEnoughData.name) :=
  ⟨rfl, rfl, rfl, rfl, rfl, rfl, rfl⟩

end Controller

end ScreenCapture
