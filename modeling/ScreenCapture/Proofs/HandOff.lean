import ScreenCapture.Proofs.Keeping

namespace ScreenCapture

namespace RenderPhase

def isPainting : RenderPhase → Bool
  | painting _ => true
  | waiting | announcing _ | stopped => false

def isAnnouncing : RenderPhase → Bool
  | announcing _ => true
  | waiting | painting _ | stopped => false

end RenderPhase

/-- A capture at work, and the waiter that it waits for. -/
structure HandOff where
  controller : Controller
  compositor : Compositor
  waiting : Option WaiterId

/-- What is done at one go while frames are handed from the renderer to the capture. -/
inductive Turn
  /-- The next section of a renderer, among others. -/
  | happen (x : Happening)
  | beginWait (operation : CaptureOperation)
  | endWait
  | giveUp
  | consume

namespace HandOff

/-- The capture does nothing else while it waits, and goes on waiting when nothing is announced. -/
def turn (s : HandOff) : Turn → HandOff
  | .happen x => { s with compositor := x.apply s.compositor }
  | .beginWait operation =>
    if s.waiting.isSome then s
    else
      match s.controller.beginWait operation s.compositor with
      | (.ok waiter, k, c) => ⟨k, c, waiter⟩
      | (.error _, k, c) => ⟨k, c, none⟩
  | .endWait =>
    match s.waiting with
    | none => s
    | some waiter =>
      match s.compositor.takeNotice? waiter with
      | none => s
      | some c => ⟨s.controller.noteFrame, c, none⟩
  | .giveUp => { s with waiting := none }
  | .consume =>
    if s.waiting.isSome then s
    else ⟨(s.controller.consume s.compositor).2.1, (s.controller.consume s.compositor).2.2, none⟩

def run (turns : List Turn) (s : HandOff) : HandOff := turns.foldl turn s

/-- A wait with a limit consists of its turns. -/
theorem waitAs_turns (k : Controller) (operation : CaptureOperation) (c : Compositor) :
    run [.beginWait operation, .endWait, .giveUp] ⟨k, c, none⟩ =
      ⟨(k.waitAs operation false c).2.1, (k.waitAs operation false c).2.2, none⟩ := by
  simp only [run, List.foldl_cons, List.foldl_nil, turn, Option.isSome_none, Bool.false_eq_true,
    if_false, Controller.waitAs]
  match k.beginWait operation c with
  | (.error e, k, c) => rfl
  | (.ok none, k, c) => rfl
  | (.ok (some waiter), k, c) =>
    simp only [Compositor.awaitNotice, Bool.false_eq_true, if_false]
    cases c.takeNotice? waiter <;> rfl

/-- The output that is at work hands out its frames, one note at a time. -/
def AtWork (site : Site) (s : HandOff) : Prop :=
  ∃ f consumed, s.controller.Tracks s.compositor (some (site, f)) ∧
    f.Coherent consumed s.controller.framePending ∧
    ∀ waiter, s.waiting = some waiter →
      waiter = site.waiter ∧ f.locked = false ∧ s.controller.framePending = false

variable {site : Site} {s : HandOff}

theorem AtWork.happen (h : AtWork site s) (x : Happening) : AtWork site (s.turn (.happen x)) := by
  obtain ⟨f, consumed, htracks, hf, hw⟩ := h
  obtain ⟨parts, hd⟩ := htracks.happen x
  refine ⟨f.renders parts, consumed, hd, hf.renders parts, ?_⟩
  intro waiter hwaiter
  obtain ⟨hs, hl, hp⟩ := hw waiter hwaiter
  exact ⟨hs, (f.renders_locked parts).trans hl, hp⟩

theorem AtWork.beginWait (h : AtWork site s) (operation : CaptureOperation) :
    AtWork site (s.turn (.beginWait operation)) := by
  by_cases hwaiting : s.waiting.isSome
  · simpa only [turn, hwaiting, if_true] using h
  · obtain ⟨f, consumed, htracks, hf, _⟩ := h
    simp only [turn, hwaiting]
    rcases htracks.beginWait operation with ⟨_, hb⟩ | ⟨_, hb⟩ | ⟨s', f', m, d, he, hp, hb, hd⟩
    · rw [hb]
      exact ⟨f, consumed, htracks, hf, nofun⟩
    · rw [hb]
      exact ⟨f, consumed, htracks, hf, nofun⟩
    · obtain ⟨rfl, rfl⟩ := Prod.mk.inj (Option.some.inj he)
      rw [hb]
      refine ⟨f.unlock, consumed, hd, hf.unlock, ?_⟩
      intro waiter hwaiter
      exact ⟨(Option.some.inj hwaiter).symm, rfl, hp⟩

theorem AtWork.endWait (h : AtWork site s) : AtWork site (s.turn .endWait) := by
  cases hwaiting : s.waiting with
  | none => simpa only [turn, hwaiting] using h
  | some waiter =>
    have hwork := h
    obtain ⟨f, consumed, htracks, hf, hw⟩ := hwork
    obtain ⟨rfl, hl, hp⟩ := hw waiter hwaiting
    rcases htracks.runs.takeNotice? with ⟨_, hn⟩ | ⟨g, d, hg, hd, hruns⟩
    · simpa only [turn, hwaiting, hn] using h
    · have hgl : g.locked = false := by
        obtain ⟨_, rfl⟩ := Feed.takeNotice?_eq_some hg
        exact hl
      have h1 : s.controller.Tracks d (some (site, g)) :=
        ⟨hruns, htracks.running, htracks.pending, htracks.free⟩
      -- what the waiter no longer counts, the capture has noted
      rw [hp] at hf
      simp only [turn, hwaiting, hd]
      exact ⟨g, consumed, h1.noteFrame hgl, hf.takeNotice hg, nofun⟩

theorem AtWork.giveUp (h : AtWork site s) : AtWork site (s.turn .giveUp) := by
  obtain ⟨f, consumed, htracks, hf, _⟩ := h
  exact ⟨f, consumed, htracks, hf, nofun⟩

theorem AtWork.consume (h : AtWork site s) (hz : site.params.hasZeroSide = false)
    (hsize : site.params.frameSize < 2 ^ 32) : AtWork site (s.turn .consume) := by
  by_cases hwaiting : s.waiting.isSome
  · simpa only [turn, hwaiting, if_true] using h
  · obtain ⟨f, consumed, htracks, hf, _⟩ := h
    obtain ⟨r, k', d, e', he, hd⟩ := htracks.consume
    obtain ⟨g, rfl, hg, _⟩ := hd.moving.keeps rfl hz hsize hf
    simp only [turn, hwaiting, he]
    exact ⟨g, _, hd.tracks, hg, nofun⟩

theorem AtWork.turn (h : AtWork site s) (hz : site.params.hasZeroSide = false)
    (hsize : site.params.frameSize < 2 ^ 32) (t : Turn) : AtWork site (s.turn t) := by
  cases t with
  | happen x => exact h.happen x
  | beginWait operation => exact h.beginWait operation
  | endWait => exact h.endWait
  | giveUp => exact h.giveUp
  | consume => exact h.consume hz hsize

theorem AtWork.run (turns : List Turn) (h : AtWork site s)
    (hz : site.params.hasZeroSide = false) (hsize : site.params.frameSize < 2 ^ 32) :
    AtWork site (run turns s) := by
  induction turns generalizing s with
  | nil => exact h
  | cons t turns ih => exact ih (h.turn hz hsize t)

theorem AtWork.keeps (h : AtWork site s) :
    ∃ consumed, CaptureAction.Keeps site (s.controller, s.compositor) consumed := by
  obtain ⟨f, consumed, htracks, hf, _⟩ := h
  exact ⟨consumed, f, htracks, hf⟩

/-- What the queue, the renderer, the waiter and the capture know of the single slot. -/
theorem AtWork.slot (h : AtWork site s) :
    ∃ queue renderer, s.compositor.queue? site.queue = some queue ∧
      s.compositor.renderer? site.display = some renderer ∧
      queue.sync = true ∧ queue.listener = some site.waiter ∧ renderer.surface = site.queue ∧
      s.compositor.pending site.waiter + s.controller.framePending.toNat +
        renderer.phase.isAnnouncing.toNat = queue.queued.isSome.toNat ∧
      renderer.phase.isPainting.toNat + queue.queued.isSome.toNat + queue.locked.toNat ≤ 1 := by
  obtain ⟨f, consumed, htracks, hf, _⟩ := h
  have hhosts := htracks.runs.hosts
  have hm : (site, f) ∈ (some (site, f)).toList := List.mem_singleton.mpr rfl
  have hpending : s.compositor.pending site.waiter = f.pending := by
    simp [Compositor.pending, hhosts.waiters.find? hm]
  have hannouncing : (site.renderer f).phase.isAnnouncing = f.stage.isAnnouncing := by
    cases hst : f.stage <;> simp only [Site.renderer, hst] <;> rfl
  have hpainting : (site.renderer f).phase.isPainting = f.stage.isPainting := by
    cases hst : f.stage <;> simp only [Site.renderer, hst] <;> rfl
  have hqueued : (site.channel f).queue.queued.isSome = f.queued.isSome := Option.isSome_map
  refine ⟨_, _, hhosts.queue? hm, hhosts.renderer? hm, rfl, rfl, rfl, ?_, ?_⟩
  · rw [hpending, hannouncing, hqueued]
    exact hf.balanced
  · rw [hpainting, hqueued]
    exact hf.slot

/-- However the renderer and the capture take turns, a queued frame is announced, or about to be, or
noted, and just once; and the slot is painted into, or queued, or locked. So a capture that has
noted a frame finds it. -/
theorem handOff_balanced (panels : Registry Int32 Panel) (interval : Nat) (id : Int32)
    (before : List CaptureAction) (turns : List Turn) :
    let (_, k, c) := CaptureAction.run before (.new id, .ofPanels panels interval)
    ∀ o, k.manager.output = some o → o.params.frameSize < 2 ^ 32 →
      let s := run turns ⟨k, c, none⟩
      (∃ queue renderer, s.compositor.queue? o.queue = some queue ∧
        s.compositor.renderer? o.display = some renderer ∧
        queue.sync = true ∧ queue.listener = some o.waiter ∧ renderer.surface = o.queue ∧
        s.compositor.pending o.waiter + s.controller.framePending.toNat +
          renderer.phase.isAnnouncing.toNat = queue.queued.isSome.toNat ∧
        renderer.phase.isPainting.toNat + queue.queued.isSome.toNat + queue.locked.toNat ≤ 1) ∧
      (s.controller.state = .frameReady → s.compositor.armed .lock = none →
        ∃ frame, (s.controller.consume s.compositor).1 = .ok frame) := by
  intro o ho hsize s
  obtain ⟨e, htracks, hconsumable⟩ := CaptureAction.consumable_run before
    (s := (.new id, .ofPanels panels interval))
    (Controller.new_tracks id (Compositor.ofPanels_hosts panels interval)) nofun
  cases e with
  | none =>
    have hn := htracks.runs.isRunning
    rw [OutputManager.isRunning, ho] at hn
    cases hn
  | some x =>
    obtain ⟨site, f⟩ := x
    obtain ⟨o', ho', rfl, _⟩ := htracks.runs.owned
    obtain rfl := Option.some.inj (ho.symm.trans ho')
    obtain ⟨hz, hf⟩ := hconsumable _ _ rfl
    obtain ⟨consumed, hf⟩ := hf hsize
    have hwork : AtWork o.site ⟨_, _, none⟩ := ⟨f, consumed, htracks, hf, nofun⟩
    have hrun := hwork.run turns hz hsize
    obtain ⟨_, hkeeps⟩ := hrun.keeps
    exact ⟨hrun.slot, hkeeps.consumes hz hsize⟩

/-- The first frame, rendered while the capture waits for it. -/
theorem handOff_balanced_first :
    let (_, k, c) := CaptureAction.run
      [.operate (.setDesired (.ofGeometry 64 32 .rotation0)),
        .operate (.setReal (.ofGeometry 128 64 .rotation0)), .operate .apply] (.new 0, .standard)
    let s := run [.beginWait .wait, .happen (.render 2), .happen (.render 2), .happen (.render 2),
      .endWait] ⟨k, c, none⟩
    s.controller.state = .frameReady ∧ s.compositor.armed .lock = none ∧
      ∃ frame, (s.controller.consume s.compositor).1 = .ok frame := by
  let o : VirtualOutput :=
    { display := 2, queue := 1, waiter := 0, holder := .empty
      params := ⟨64, 32, .rotation0, 128, 64⟩ }
  refine ⟨rfl, rfl, ?_⟩
  exact (handOff_balanced Compositor.standardPanels Compositor.standardInterval 0
    [.operate (.setDesired (.ofGeometry 64 32 .rotation0)),
      .operate (.setReal (.ofGeometry 128 64 .rotation0)), .operate .apply]
    [.beginWait .wait, .happen (.render 2), .happen (.render 2), .happen (.render 2), .endWait]
    o rfl (by decide)).2 rfl rfl

end HandOff

end ScreenCapture
