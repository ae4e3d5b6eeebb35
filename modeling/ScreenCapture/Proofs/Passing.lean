import ScreenCapture.Proofs.Managing

namespace ScreenCapture

theorem Feeds.mem_put_ne {feeds : Feeds} {s other : Site} {f : Feed} (hm : (other, f) ∈ feeds)
    (hne : other ≠ s) (g : Feed) : (other, f) ∈ feeds.put s g :=
  List.mem_map.mpr ⟨(other, f), hm, by simp [hne]⟩

/-- All that moves in an output can be seen in the compositor. -/
theorem Site.feed_ext {s : Site} {f g : Feed} (hc : s.channel f = s.channel g)
    (hd : s.shown f = s.shown g) (hp : f.pending = g.pending) : f = g := by
  have hq : (s.channel f).queue = (s.channel g).queue := congrArg Channel.queue hc
  have hqueued : f.queued = g.queued := by
    have hframes : f.queued.map s.frame = g.queued.map s.frame := congrArg Queue.queued hq
    have hnumbers := congrArg (Option.map QueuedFrame.number) hframes
    simpa [Function.comp_def, Site.frame] using hnumbers
  have hlocked : f.locked = g.locked := congrArg Queue.locked hq
  have hnext : f.nextFrame = g.nextFrame := congrArg Queue.nextFrame hq
  have hstage : f.stage = g.stage := by
    have hr : s.renderer f = s.renderer g := Option.some.inj (congrArg VirtualDisplay.renderer hd)
    have hphase : s.phase f.stage = s.phase g.stage := congrArg Renderer.phase hr
    cases hf : f.stage <;> cases hg : g.stage <;> simp [hf, hg, Site.phase] at hphase ⊢
  cases f
  cases g
  simp_all

namespace Compositor

/-- An output runs at the site, and this is what moves in it. -/
def Drives (c : Compositor) (s : Site) (f : Feed) : Prop :=
  ∃ feeds, c.Hosts feeds ∧ (s, f) ∈ feeds

variable {c d e : Compositor} {feeds : Feeds} {s : Site} {f g : Feed}

theorem Drives.feed_eq (h : c.Drives s f) (hc : c.Hosts feeds) (hm : (s, g) ∈ feeds) : g = f := by
  obtain ⟨feeds', hc', hm'⟩ := h
  have hchannel := (hc.channels.find? hm).symm.trans (hc'.channels.find? hm')
  have hdisplay := (hc.displays.find? hm).symm.trans (hc'.displays.find? hm')
  have hwaiter := (hc.waiters.find? hm).symm.trans (hc'.waiters.find? hm')
  exact Site.feed_ext (Option.some.inj hchannel) (Option.some.inj hdisplay)
    (congrArg Waiter.pending (Option.some.inj hwaiter))

theorem Drives.eq (h : c.Drives s f) (h' : c.Drives s g) : f = g := by
  obtain ⟨feeds, hc, hm⟩ := h
  exact h'.feed_eq hc hm

theorem Drives.happen (h : c.Drives s f) (x : Happening) :
    ∃ parts, (x.apply c).Drives s (f.renders parts) := by
  obtain ⟨feeds, hc, hm⟩ := h
  rcases hc.happen x with hd | ⟨s', f', part, hm', hd⟩
  · exact ⟨[], feeds, hd, hm⟩
  · by_cases hs : s = s'
    · subst hs
      obtain rfl : f' = f := Drives.feed_eq ⟨feeds, hc, hm⟩ hc hm'
      exact ⟨[part], _, hd, Feeds.mem_put _ hm⟩
    · exact ⟨[], _, hd, Feeds.mem_put_ne hm hs _⟩

/-- Every section of the renderer can be brought about, or has nothing to do. -/
theorem Drives.render (h : c.Drives s f) (part : RenderSection) :
    (c.renderStep s.display).Drives s (f.render part) ∨ f.render part = f := by
  obtain ⟨feeds, hc, hm⟩ := h
  by_cases hp : part = f.stage.next
  · subst hp
    exact .inl ⟨_, hc.renderStep hm, Feeds.mem_put _ hm⟩
  · right
    cases hst : f.stage <;> cases part <;> simp_all [FeedStage.next, Feed.render]

/-- Nothing is armed, no panel changes, and no number is given out again. -/
structure Onward (c d : Compositor) : Prop where
  panels : d.panels = c.panels
  armed (point : FailPoint) : c.armed point = none → d.armed point = none
  nextId : c.nextId ≤ d.nextId

namespace Onward

theorem refl (c : Compositor) : c.Onward c := ⟨rfl, fun _ h => h, Nat.le_refl _⟩

theorem trans (h : c.Onward d) (h' : d.Onward e) : c.Onward e where
  panels := h'.panels.trans h.panels
  armed point hc := h'.armed point (h.armed point hc)
  nextId := Nat.le_trans h.nextId h'.nextId

theorem disarm (c : Compositor) (point : FailPoint) : c.Onward (c.disarm point) := by
  refine ⟨rfl, fun other hc => ?_, Nat.le_refl _⟩
  simp only [Compositor.disarm]
  split
  next => rfl
  next => exact hc

theorem guarded {α : Type} {call : Compositor → Except Status α × Compositor}
    (h : c.Onward (call c).2) (point : FailPoint) : c.Onward (c.guarded point call).2 := by
  unfold Compositor.guarded
  cases c.armed point with
  | some status => exact disarm c point
  | none => exact h

theorem onReader {α : Type} (c : Compositor) (id : QueueId)
    (call : Reader → Queue → Except Status (α × Reader × Queue)) :
    c.Onward (c.onReader id call).2 := by
  unfold Compositor.onReader onChannel
  cases c.channels.find? id with
  | none => exact refl c
  | some channel =>
    cases hreader : channel.reader with
    | none =>
      simp only [hreader]
      exact refl c
    | some reader =>
      simp only [hreader]
      cases call reader channel.queue with
      | error status => exact refl c
      | ok after => exact ⟨rfl, fun _ h => h, Nat.le_refl _⟩

theorem lock (c : Compositor) (id : QueueId) : c.Onward (c.lock id).2 :=
  guarded (onReader c id Reader.lock) .lock

theorem unlock (c : Compositor) (id : QueueId) : c.Onward (c.unlock id).2 := onReader c id _

theorem lockNext (c : Compositor) (holder : FrameHolder) (id : QueueId) :
    c.Onward (holder.lockNext (source id) c).2.2 := by
  have hlock := lock c id
  simp only [FrameHolder.lockNext, source]
  split
  next => exact refl c
  next =>
    generalize c.lock id = locked at hlock ⊢
    obtain ⟨_ | buffer, d⟩ := locked
    · exact hlock
    · simp only
      cases buffer.size? with
      | none => exact hlock.trans (unlock d id)
      | some size => exact hlock

theorem unlockHeld (c : Compositor) (holder : FrameHolder) (id : QueueId) :
    c.Onward (holder.unlock (source id) c).2.2 := by
  unfold FrameHolder.unlock
  cases holder.held with
  | none => exact refl c
  | some buffer => exact unlock c id

theorem takeNotice {waiter : WaiterId} (h : c.takeNotice? waiter = some d) : c.Onward d := by
  simp only [Compositor.takeNotice?, Option.bind_eq_some_iff, Option.map_eq_some_iff] at h
  obtain ⟨_, _, _, _, rfl⟩ := h
  exact ⟨rfl, fun _ h => h, Nat.le_refl _⟩

theorem setPhase (c : Compositor) (token : DisplayToken) (phase : RenderPhase) :
    c.Onward (c.setPhase token phase) := ⟨rfl, fun _ h => h, Nat.le_refl _⟩

theorem beginFrame (c : Compositor) (token : DisplayToken) : c.Onward (c.beginFrame token) := by
  unfold Compositor.beginFrame
  split
  next surface _ _ =>
    cases c.queue? surface with
    | none => exact setPhase c token .stopped
    | some queue =>
      simp only
      cases queue.slot with
      | free canvas => exact setPhase c token (.painting canvas)
      | busy => exact refl c
      | refused status => exact setPhase c token .stopped
  next => exact refl c

theorem commitFrame (c : Compositor) (token : DisplayToken) : c.Onward (c.commitFrame token) := by
  unfold Compositor.commitFrame
  split
  next surface projection canvas _ =>
    cases c.queue? surface with
    | none => exact setPhase c token .stopped
    | some queue =>
      simp only
      cases queue.commit canvas (.mk fun _ => projection.paint canvas canvas.blank) with
      | error status => exact setPhase c token .stopped
      | ok commit => exact ⟨rfl, fun _ h => h, Nat.le_refl _⟩
  next => exact refl c

theorem announceFrame (c : Compositor) (token : DisplayToken) :
    c.Onward (c.announceFrame token) := by
  unfold Compositor.announceFrame
  split
  next => exact ⟨rfl, fun _ h => h, Nat.le_refl _⟩
  next => exact refl c

theorem renderStep (c : Compositor) (token : DisplayToken) : c.Onward (c.renderStep token) := by
  unfold Compositor.renderStep
  split
  next => exact beginFrame c token
  next => exact commitFrame c token
  next => exact announceFrame c token
  next => exact refl c
  next => exact refl c

theorem foldl {part : Compositor → DisplayToken → Compositor}
    (h : ∀ (c : Compositor) token, c.Onward (part c token)) (tokens : List DisplayToken)
    (c : Compositor) : c.Onward (tokens.foldl part c) := by
  induction tokens generalizing c with
  | nil => exact refl c
  | cons token tokens ih => exact (h c token).trans (ih (part c token))

theorem renderAll (c : Compositor) : c.Onward c.renderAll :=
  (foldl beginFrame _ c).trans ((foldl commitFrame _ _).trans (foldl announceFrame _ _))

theorem awaitNotice (c : Compositor) (waiter : WaiterId) (arrives : Bool) :
    c.Onward (c.awaitNotice waiter arrives).2 := by
  unfold Compositor.awaitNotice
  split
  next hn => exact takeNotice hn
  next =>
    split
    next =>
      simp only
      split
      next hn => exact (renderAll c).trans (takeNotice hn)
      next => exact renderAll c
    next => exact refl c

theorem panel (c : Compositor) (id : Int32) : c.Onward (c.panel id).2 := by
  refine guarded ?_ .panel
  cases c.panels.find? id <;> exact refl c

theorem probe (c : Compositor) (id : Int32) : c.Onward (c.probe id).2 := by
  have hpanel := panel c id
  unfold Compositor.probe
  generalize c.panel id = answer at hpanel ⊢
  obtain ⟨_ | _, d⟩ := answer
  · simp only
    split <;> exact hpanel
  · exact hpanel

theorem startPool (c : Compositor) : c.Onward c.startPool := by
  unfold Compositor.startPool
  split
  next => exact refl c
  next => exact ⟨rfl, fun _ h => h, Nat.le_refl _⟩

theorem without (c : Compositor) (s : Site) : c.Onward (c.without s) :=
  ⟨rfl, fun _ h => h, Nat.le_refl _⟩

theorem failedAt (c : Compositor) (stage : SetupStage) : c.Onward (c.failedAt stage) :=
  ⟨rfl, (disarm c stage.point).armed, Nat.le_add_right _ _⟩

theorem hosting (c : Compositor) (p : OutputParams) : c.Onward (c.hosting p) :=
  ⟨rfl, fun _ h => h, Nat.le_add_right _ _⟩

end Onward

end Compositor

end ScreenCapture
