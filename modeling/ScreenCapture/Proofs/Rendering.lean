import ScreenCapture.Proofs.Hosting

namespace ScreenCapture

/-- The section that comes next. -/
def FeedStage.next : FeedStage → RenderSection
  | idle => .check
  | painting => .commit
  | announcing => .announce

namespace Compositor

variable {c : Compositor} {feeds : Feeds} {s : Site} {f : Feed}

def render (c : Compositor) (token : DisplayToken) : RenderSection → Compositor
  | .check => c.beginFrame token
  | .commit => c.commitFrame token
  | .announce => c.announceFrame token

theorem Hosts.beginFrame (h : c.Hosts feeds) (hm : (s, f) ∈ feeds) :
    (c.beginFrame s.display).Hosts (feeds.put s (f.render .check)) := by
  have hr := h.renderer? hm
  have hq := h.queue? hm
  cases hst : f.stage with
  | idle =>
    simp only [Site.renderer, hst, Site.phase] at hr
    simp only [Compositor.beginFrame, hr, hq]
    by_cases hfree : f.locked = false ∧ f.queued = none
    · have hslot : (s.channel f).queue.slot = .free s.canvas := by
        simp [Queue.slot, Site.channel, hfree.1, hfree.2, VirtualOutput.pixelFormat,
          FormatCode.rgba8888, FormatCode.bytesPerPixel, Queue.canvas, Site.canvas]
      have hf : f.render .check = { f with stage := .painting } := by
        simp [Feed.render, hst, hfree.1, hfree.2]
      simp only [hslot, hf]
      exact h.setPhase hm (g := { f with stage := .painting }) rfl rfl
    · have hslot : (s.channel f).queue.slot = .busy := by
        have hb : f.locked = true ∨ f.queued.isSome = true := by
          cases hl : f.locked <;> cases hq : f.queued <;> simp_all
        simp [Queue.slot, Site.channel, hb]
      have hf : f.render .check = f := by simp [Feed.render, hst, hfree]
      simp only [hslot, hf]
      exact h.put_self hm
  | painting =>
    simp only [Site.renderer, hst, Site.phase] at hr
    simpa [Compositor.beginFrame, hr, Feed.render, hst] using h.put_self hm
  | announcing =>
    simp only [Site.renderer, hst, Site.phase] at hr
    simpa [Compositor.beginFrame, hr, Feed.render, hst] using h.put_self hm

theorem Hosts.commitFrame (h : c.Hosts feeds) (hm : (s, f) ∈ feeds) :
    (c.commitFrame s.display).Hosts (feeds.put s (f.render .commit)) := by
  have hr := h.renderer? hm
  have hq := h.queue? hm
  cases hst : f.stage with
  | painting =>
    simp only [Site.renderer, hst, Site.phase] at hr
    -- the queue changes first, and then the phase of the renderer
    let committed : Feed := { f with queued := some f.nextFrame, nextFrame := f.nextFrame + 1 }
    have hcommit : (s.channel f).queue.commit s.canvas s.picture = .ok
        { queue := (s.channel committed).queue, number := f.nextFrame
          announce := if f.queued.isSome then none else some s.waiter } := by
      simp [Queue.commit, Site.channel, Site.frame, committed]
    have hf : f.render .commit =
        { committed with stage := if f.queued.isSome then .idle else .announcing } := by
      simp [Feed.render, hst, committed]
    have hc : c.commitFrame s.display =
        (c.setQueue s.queue (s.channel committed).queue).setPhase s.display
          (s.phase (if f.queued.isSome then .idle else .announcing)) := by
      simp only [Compositor.commitFrame, hr, hq]
      rw [show (Thunk.mk fun _ => s.params.projection.paint s.canvas s.canvas.blank) = s.picture
        from rfl, hcommit]
      cases f.queued.isSome <;> rfl
    rw [hc, hf]
    have h1 : (c.setQueue s.queue (s.channel committed).queue).Hosts (feeds.put s committed) :=
      h.modifyChannel hm rfl rfl rfl
    have h2 := h1.setPhase (Feeds.mem_put committed hm) (g :=
      { committed with stage := if f.queued.isSome then .idle else .announcing }) rfl rfl
    rwa [Feeds.put_put] at h2
  | idle =>
    simp only [Site.renderer, hst, Site.phase] at hr
    simpa [Compositor.commitFrame, hr, Feed.render, hst] using h.put_self hm
  | announcing =>
    simp only [Site.renderer, hst, Site.phase] at hr
    simpa [Compositor.commitFrame, hr, Feed.render, hst] using h.put_self hm

theorem Hosts.announceFrame (h : c.Hosts feeds) (hm : (s, f) ∈ feeds) :
    (c.announceFrame s.display).Hosts (feeds.put s (f.render .announce)) := by
  have hr := h.renderer? hm
  cases hst : f.stage with
  | announcing =>
    simp only [Site.renderer, hst, Site.phase] at hr
    have hf : f.render .announce =
        { f with pending := min (f.pending + 1) Waiter.limit, stage := .idle } := by
      simp [Feed.render, hst]
    simp only [Compositor.announceFrame, hr, hf]
    exact ⟨h.channels.keep hm rfl, h.displays.modify hm rfl, h.waiters.modify hm rfl,
      h.below_put s _⟩
  | idle =>
    simp only [Site.renderer, hst, Site.phase] at hr
    simpa [Compositor.announceFrame, hr, Feed.render, hst] using h.put_self hm
  | painting =>
    simp only [Site.renderer, hst, Site.phase] at hr
    simpa [Compositor.announceFrame, hr, Feed.render, hst] using h.put_self hm

theorem Hosts.render (h : c.Hosts feeds) (hm : (s, f) ∈ feeds) (part : RenderSection) :
    (c.render s.display part).Hosts (feeds.put s (f.render part)) := by
  cases part with
  | check => exact h.beginFrame hm
  | commit => exact h.commitFrame hm
  | announce => exact h.announceFrame hm

theorem Hosts.renderStep (h : c.Hosts feeds) (hm : (s, f) ∈ feeds) :
    (c.renderStep s.display).Hosts (feeds.put s (f.render f.stage.next)) := by
  have hr := h.renderer? hm
  have hs : c.renderStep s.display = c.render s.display f.stage.next := by
    cases hst : f.stage <;>
      simp only [Compositor.renderStep, hr, Site.renderer, hst, Site.phase, FeedStage.next,
        Compositor.render]
  rw [hs]
  exact h.render hm f.stage.next

theorem Hosts.renderStep_absent (h : c.Hosts feeds) {token : DisplayToken}
    (ht : ∀ e ∈ feeds, e.1.display ≠ token) : c.renderStep token = c := by
  simp [Compositor.renderStep, Compositor.renderer?, h.displays.find?_none ht]

/-- The same section of every renderer, one after another. -/
theorem Hosts.renderEach (part : RenderSection) {c : Compositor} (done todo : Feeds)
    (h : c.Hosts (done ++ todo)) :
    ((todo.map (·.1.display)).foldl (fun c token => c.render token part) c).Hosts
      (done ++ todo.map fun e => (e.1, e.2.render part)) := by
  induction todo generalizing done c with
  | nil => exact h
  | cons e todo ih =>
    obtain ⟨s, f⟩ := e
    have hm : (s, f) ∈ done ++ (s, f) :: todo := by simp
    have h1 := h.render hm part
    rw [Feeds.put_append_cons h.sites_nodup] at h1
    have h2 := ih (done ++ [(s, f.render part)]) (by simpa using h1)
    simpa using h2

/-- Each renderer has its own surface, so that all of them together do what each does alone. -/
theorem Hosts.renderAll (h : c.Hosts feeds) :
    c.renderAll.Hosts (feeds.map fun e => (e.1, e.2.renderFrame)) := by
  have hk : c.displays.keys = feeds.map (·.1.display) := by
    rw [Registry.keys, h.displays, List.map_map]
    rfl
  have h1 := h.renderEach .check [] feeds
  have h2 := h1.renderEach .commit [] _
  have h3 := h2.renderEach .announce [] _
  simp only [List.nil_append, List.map_map] at h3
  simp only [Compositor.renderAll, hk]
  exact h3

/-- Taking an announcement at the site, or finding that there is none. -/
theorem Hosts.takeNotice? (h : c.Hosts feeds) (hm : (s, f) ∈ feeds) :
    (f.takeNotice? = none ∧ c.takeNotice? s.waiter = none) ∨
      ∃ g d, f.takeNotice? = some g ∧ c.takeNotice? s.waiter = some d ∧ d.armed = c.armed ∧
        d.Hosts (feeds.put s g) := by
  have hw := h.waiters.find? hm
  by_cases hp : f.pending = 0
  · left
    simp [Feed.takeNotice?, Compositor.takeNotice?, hw, Waiter.take?, hp]
  · right
    refine ⟨{ f with pending := f.pending - 1 },
      { c with waiters := c.waiters.modify s.waiter fun _ => ⟨f.pending - 1⟩ }, ?_, ?_, rfl, ?_⟩
    · simp [Feed.takeNotice?, hp]
    · simp [Compositor.takeNotice?, hw, Waiter.take?, hp]
    · exact ⟨h.channels.keep hm rfl, h.displays.keep hm rfl, h.waiters.modify hm rfl,
        h.below_put s _⟩

end Compositor

end ScreenCapture
