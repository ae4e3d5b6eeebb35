import ScreenCapture.Proofs.Reading

namespace ScreenCapture

namespace Compositor

/-- The compositor after a queue was released. -/
def released (c : Compositor) (id : QueueId) : Compositor :=
  { c with channels := c.channels.erase id, events := c.events ++ [.queueReleased id] }

theorem released_modifyChannel (c : Compositor) (id : QueueId) (φ : Channel → Channel) :
    (c.modifyChannel id φ).released id = c.released id := by
  simp only [released, modifyChannel, Registry.erase_modify_self]

@[simp]
theorem isShown_modifyChannel (c : Compositor) (id other : QueueId) (φ : Channel → Channel) :
    (c.modifyChannel id φ).isShown other = c.isShown other := rfl

theorem find?_modifyChannel {c : Compositor} {id : QueueId} {channel : Channel}
    (hf : c.channels.find? id = some channel) (φ : Channel → Channel) :
    (c.modifyChannel id φ).channels.find? id = some (φ channel) := by
  simp only [modifyChannel, Registry.find?_modify_self, hf, Option.map_some]

theorem reap_of_held {c : Compositor} {id : QueueId} {channel : Channel}
    (hf : c.channels.find? id = some channel) (hh : c.isHeld id channel = true) :
    c.reap id = c := by
  simp only [reap, hf, hh, if_true]

theorem reap_modify_held {c : Compositor} {id : QueueId} {channel : Channel}
    (hf : c.channels.find? id = some channel) {φ : Channel → Channel}
    (hh : c.isHeld id (φ channel) = true) :
    (c.modifyChannel id φ).reap id = c.modifyChannel id φ :=
  reap_of_held (find?_modifyChannel hf φ) hh

theorem reap_modify_free {c : Compositor} {id : QueueId} {channel : Channel}
    (hf : c.channels.find? id = some channel) {φ : Channel → Channel}
    (hh : c.isHeld id (φ channel) = false) : (c.modifyChannel id φ).reap id = c.released id := by
  have hh' : (c.modifyChannel id φ).isHeld id (φ channel) = false := hh
  rw [← released_modifyChannel c id φ]
  simp only [reap, find?_modifyChannel hf φ, hh', Bool.false_eq_true, if_false]
  rfl

theorem dropReader_released (c : Compositor) (id : QueueId) :
    (c.released id).dropReader id = c.released id := by
  have ha : (c.released id).channels.find? id = none := c.channels.find?_erase_self id
  simp only [dropReader, modifyChannel, Registry.modify_of_absent ha, reap, ha]

/-- When the producer, the endpoint and the reader are let go, the queue is released, that once. -/
theorem dropQueue_eq {c : Compositor} {id : QueueId} {channel : Channel}
    (hf : c.channels.find? id = some channel) (he : channel.endpointHeld = true)
    (hw : channel.waitingCall = none) (hs : c.isShown id = false) :
    c.dropQueue id = c.released id := by
  let c1 := c.modifyChannel id fun channel => { channel with producerHeld := false }
  have hf1 := find?_modifyChannel hf fun channel => { channel with producerHeld := false }
  have h1 : c.dropProducer id = c1 := reap_modify_held hf (by simp [isHeld, he])
  let c2 := c1.modifyChannel id fun channel => { channel with endpointHeld := false }
  have hf2 := find?_modifyChannel hf1 fun channel => { channel with endpointHeld := false }
  have hr1 : c1.released id = c.released id := released_modifyChannel c id _
  have hr2 : c2.released id = c.released id := (released_modifyChannel c1 id _).trans hr1
  cases hr : channel.reader with
  | none =>
    -- without a reader the endpoint is the last holder
    have h2 : c1.dropEndpoint id = c1.released id :=
      reap_modify_free hf1 (by simp [isHeld, hw, hr, hs])
    rw [dropQueue, h1, h2, dropReader_released, hr1]
  | some reader =>
    have h2 : c1.dropEndpoint id = c2 := reap_modify_held hf1 (by simp [isHeld, hr])
    have h3 : c2.dropReader id = c2.released id :=
      reap_modify_free hf2 (by simp [isHeld, hw, hr, hs])
    rw [dropQueue, h1, h2, h3, hr2]

/-- The compositor without an output that it hosted. -/
def without (c : Compositor) (s : Site) : Compositor :=
  { c with
    channels := c.channels.erase s.queue, displays := c.displays.erase s.display
    waiters := c.waiters.erase s.waiter
    events := c.events ++ [.displayDestroyed s.display, .queueReleased s.queue] }

variable {c : Compositor} {feeds : Feeds} {s : Site} {f : Feed}

theorem Hosts.without (h : c.Hosts feeds) (hm : (s, f) ∈ feeds) :
    (c.without s).Hosts (feeds.filter (·.1 ≠ s)) :=
  ⟨h.channels.erase hm, h.displays.erase hm, h.waiters.erase hm,
    fun e he => h.below e (List.mem_of_mem_filter he)⟩

/-- Once its display is gone, nothing shows the queue of an output. -/
theorem Hosts.not_shown (h : c.Hosts feeds) (hm : (s, f) ∈ feeds) :
    ({ c with displays := c.displays.erase s.display } : Compositor).isShown s.queue = false := by
  simp only [isShown]
  rw [h.displays.erase hm, List.any_map, List.any_eq_false]
  intro e he
  have hin := List.mem_of_mem_filter he
  have hne : e.1 ≠ s := by simpa using (List.mem_filter.mp he).2
  have hq : e.1.queue ≠ s.queue :=
    fun hq => hne (congrArg (·.1) (h.channels.eq_of_key hin hm hq))
  simp [Site.shown, Site.renderer, hq]

theorem stopRenderer_eq (c : Compositor) (s : Site) (f : Feed) :
    ∃ φ, c.stopRenderer (s.renderer f) =
      { c.disconnect s.queue with waiters := c.waiters.modify s.waiter φ } := by
  cases hst : f.stage with
  | announcing =>
    exact ⟨Waiter.notify, by simp only [stopRenderer, Site.renderer, hst, Site.phase]; rfl⟩
  | idle | painting =>
    refine ⟨id, ?_⟩
    simp only [stopRenderer, Site.renderer, hst, Site.phase, Registry.modify_id]
    rfl

/-- Destroying the display abandons the queue, which its other holders keep. -/
theorem Hosts.destroyDisplay (h : c.Hosts feeds) (hm : (s, f) ∈ feeds) :
    ∃ φ ψ, c.destroyDisplay s.display =
      { c with
        channels := c.channels.modify s.queue φ, displays := c.displays.erase s.display
        waiters := c.waiters.modify s.waiter ψ
        events := c.events ++ [.displayDestroyed s.display] } ∧
      φ (s.channel f) =
        { s.channel f with queue := (s.channel f).queue.disconnect } := by
  obtain ⟨ψ, hstop⟩ :=
    stopRenderer_eq { c with displays := c.displays.erase s.display } s f
  refine ⟨fun channel => { channel with queue := channel.queue.disconnect }, ψ, ?_, rfl⟩
  have hf := find?_modifyChannel (h.channels.find? hm)
    fun channel => { channel with queue := channel.queue.disconnect }
  have hkeep := reap_of_held (c := { ({ c with displays := c.displays.erase s.display } :
    Compositor).disconnect s.queue with waiters := c.waiters.modify s.waiter ψ }) hf
    (by simp [isHeld, Site.channel])
  have hr : s.queue = (s.renderer f).surface := rfl
  simp only [Compositor.destroyDisplay, h.displays.find? hm, Site.shown]
  rw [hstop, ← hr, hkeep]
  rfl

end Compositor

theorem Compositor.Hosts.holder_unlock {c : Compositor} {feeds : Feeds} {s : Site} {f : Feed}
    (h : c.Hosts feeds) (hm : (s, f) ∈ feeds) (holder : FrameHolder) :
    ∃ φ g, (holder.unlock (source s.queue) c).2.2 = c.modifyChannel s.queue φ ∧
      φ (s.channel f) = s.channel g ∧ f.stage = g.stage ∧ f.pending = g.pending := by
  cases hh : holder.held with
  | none =>
    exact ⟨id, f, by rw [modifyChannel_id]; simp only [FrameHolder.unlock, hh], rfl, rfl, rfl⟩
  | some buffer =>
    obtain ⟨φ, hu, hφ⟩ := h.unlock_snd hm
    refine ⟨φ, f.unlock, ?_, hφ, rfl, rfl⟩
    simpa only [FrameHolder.unlock, hh, source] using hu

/-- An output is torn down without a trace but for two events. -/
theorem VirtualOutput.tearDown_eq {o : VirtualOutput} {c : Compositor} {feeds : Feeds} {f : Feed}
    (h : c.Hosts feeds) (hm : (o.site, f) ∈ feeds) : o.tearDown c = c.without o.site := by
  obtain ⟨φ, g, hunlock, hφ, hstage, hpending⟩ := h.holder_unlock hm o.holder
  have h1 := h.modifyChannel hm hφ hstage hpending
  have hm1 := Feeds.mem_put g hm
  have hf1 := h1.channels.find? hm1
  have hs1 := h1.not_shown hm1
  obtain ⟨ψ, χ, hdestroy, hψ⟩ := h1.destroyDisplay hm1
  simp only [site_queue, site_display, site_waiter] at hunlock hdestroy hf1 hs1
  let c1 := c.modifyChannel o.queue φ
  let c2 := c1.destroyDisplay o.display
  have hf2 : c2.channels.find? o.queue = some (ψ (o.site.channel g)) := by
    simp only [c2, c1, hdestroy]
    exact Compositor.find?_modifyChannel hf1 ψ
  have hf3 := Compositor.find?_modifyChannel hf2
    fun channel => { channel with queue := channel.queue.disconnect }
  rw [hψ] at hf3
  have hs2 : c2.isShown o.queue = false := by
    simp only [c2, c1, hdestroy]
    exact hs1
  calc o.tearDown c
      = ((c2.disconnect o.queue).dropQueue o.queue).dropWaiter o.waiter := by
        simp only [c2, c1, ← hunlock]
        rfl
    _ = ((c2.disconnect o.queue).released o.queue).dropWaiter o.waiter := by
        rw [Compositor.disconnect, Compositor.dropQueue_eq hf3 rfl rfl hs2]
    _ = (c2.released o.queue).dropWaiter o.waiter := by
        rw [Compositor.disconnect, Compositor.released_modifyChannel]
    _ = c.without o.site := by
        simp only [c2, c1, hdestroy, Compositor.released, Compositor.dropWaiter,
          Compositor.without, Compositor.modifyChannel, Registry.erase_modify_self,
          List.append_assoc, List.singleton_append, site_queue, site_display, site_waiter]

end ScreenCapture
