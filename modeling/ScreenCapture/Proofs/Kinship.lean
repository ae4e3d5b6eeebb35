import Mathlib.Data.Nat.Basic
import Mathlib.Order.Monotone.Defs
import ScreenCapture.Proofs.Stakes

namespace ScreenCapture

theorem Noticing.det {arrives b b' : Bool} {f g g' : Feed} (h : Noticing arrives f b g)
    (h' : Noticing arrives f b' g') : b = b' ∧ g = g' := by
  cases h <;> cases h' <;> simp_all

theorem Site.buffer_eq {s s' : Site} (hp : s.params = s'.params) (n : Nat) :
    s.buffer n = s'.buffer n := by
  simp [buffer, Reader.describe, frame, canvas, hp]

theorem Site.picture_eq {s s' : Site} (hp : s.params = s'.params) : s.picture = s'.picture := by
  simp [picture, canvas, hp]

theorem Locking.det {c c' : Compositor} {s s' : Site} {f g g' : Feed}
    {r r' : Except CaptureError LockedBuffer} (h : Locking c s f r g) (h' : Locking c' s' f r' g')
    (hp : s.params = s'.params) (ha : c.armed .lock = none) (ha' : c'.armed .lock = none) :
    r = r' ∧ g = g' := by
  have hb := Site.buffer_eq hp
  cases h <;> cases h' <;> simp_all

/-- Without failures the noted frame is locked, unless it is too large for that. -/
theorem Locking.noted {c : Compositor} {s : Site} {f g : Feed} {consumed : Nat}
    {r : Except CaptureError LockedBuffer} (h : Locking c s f r g) (hf : f.Coherent consumed true)
    (ha : c.armed .lock = none) :
    r = .error (.lockFailed .badValue) ∨ r = .ok (s.buffer consumed) ∧ g = f.lock ∧
      g.Coherent (consumed + 1) false := by
  obtain ⟨n, hn⟩ := hf.balanced.queued
  have hl := hf.slot.locked_of_queued hn
  cases h with
  | held hheld => rw [hl] at hheld; cases hheld
  | armed _ harmed => rw [ha] at harmed; cases harmed
  | empty _ _ hempty => rw [hempty] at hn; cases hn
  | large => exact .inl rfl
  | @locked n _ _ _ hq _ =>
    obtain rfl := hf.numbered.2 n hq
    exact .inr ⟨rfl, rfl, hf.lock hq⟩

theorem Locking.error {c : Compositor} {s : Site} {f g : Feed} {error : CaptureError}
    (h : Locking c s f (.error error) g) : g.locked = f.locked := by
  cases h <;> rfl

namespace Feed

/-- Feeds that an output could have in place of one another: equal ones or, if not exact, ones of
which the same frames were consumed. -/
inductive Kin (noted : Bool) : Bool → Feed → Feed → Prop
  | same (f : Feed) : Kin noted true f f
  | close {f g : Feed} {consumed : Nat} : f.locked = g.locked → f.Coherent consumed noted →
      g.Coherent consumed noted → Kin noted false f g

namespace Kin

variable {exact noted arrives b b' : Bool} {f g f' g' : Feed}

theorem start (exact : Bool) : Kin false exact fresh fresh := by
  cases exact with
  | true => exact .same fresh
  | false => exact .close rfl fresh_coherent fresh_coherent

theorem locked (h : Kin noted exact f g) : f.locked = g.locked := by
  cases h with
  | same => rfl
  | close hl => exact hl

theorem unlock (h : Kin noted exact f g) : Kin noted exact f.unlock g.unlock := by
  cases h with
  | same => exact .same f.unlock
  | close _ hf hg => exact .close rfl hf.unlock hg.unlock

theorem renders {parts more : List RenderSection} (h : Kin noted exact f g)
    (hparts : exact = true → parts = more) :
    Kin noted exact (f.renders parts) (g.renders more) := by
  cases h with
  | same =>
    rw [hparts rfl]
    exact .same _
  | close hl hf hg =>
    refine .close ?_ (hf.renders parts) (hg.renders more)
    rw [renders_locked, renders_locked, hl]

theorem waits (h : Kin false exact f g) (hf : Noticing arrives f b f')
    (hg : Noticing arrives g b' g') (hserved : exact = false → b = true ∧ b' = true) :
    b = b' ∧ Kin b exact f' g' := by
  cases h with
  | same =>
    obtain ⟨rfl, rfl⟩ := hf.det hg
    exact ⟨rfl, .same f'⟩
  | close hl hcf hcg =>
    obtain ⟨rfl, rfl⟩ := hserved rfl
    refine ⟨rfl, .close ?_ (hf.keeps hcf) (hg.keeps hcg)⟩
    rw [hf.locked, hg.locked, hl]

theorem locks {c c' : Compositor} {s s' : Site} {r r' : Except CaptureError LockedBuffer}
    (h : Kin true exact f g) (hf : Locking c s f r f') (hg : Locking c' s' g r' g')
    (hp : s.params = s'.params) (ha : c.armed .lock = none) (ha' : c'.armed .lock = none)
    (hserved : exact = false →
      r ≠ .error (.lockFailed .badValue) ∧ r' ≠ .error (.lockFailed .badValue)) :
    r = r' ∧ Kin (!r'.isOk) exact f' g' := by
  cases h with
  | same =>
    obtain ⟨rfl, rfl⟩ := hf.det hg hp ha ha'
    exact ⟨rfl, .same f'⟩
  | close _ hcf hcg =>
    -- in both feeds the noted frame has the number of those that were consumed before it
    obtain ⟨hr, hr'⟩ := hserved rfl
    obtain ⟨rfl, rfl, hf'⟩ := (hf.noted hcf ha).resolve_left hr
    obtain ⟨rfl, rfl, hg'⟩ := (hg.noted hcg ha').resolve_left hr'
    exact ⟨congrArg Except.ok (Site.buffer_eq hp _), .close rfl hf' hg'⟩

end Kin

end Feed

namespace Compositor

variable {c d : Compositor} {s : Site} {f : Feed} {holder : FrameHolder}

theorem Drives.unlockHeld (h : c.Drives s f) (hh : holder.isHolding = f.locked) :
    ∃ d, holder.unlock (source s.queue) c = (f.locked, .empty, d) ∧ d.Drives s f.unlock := by
  obtain ⟨feeds, hc, hm⟩ := h
  obtain ⟨_ | buffer⟩ := holder
  · have hl : f.locked = false := hh.symm
    have hf : f.unlock = f := by simp [Feed.unlock, ← hl]
    rw [hf, hl]
    exact ⟨c, rfl, feeds, hc, hm⟩
  · have hl : f.locked = true := hh.symm
    obtain ⟨φ, hu, hφ⟩ := hc.unlock_snd hm
    refine ⟨_, ?_, _, hc.modifyChannel hm hφ rfl rfl, Feeds.mem_put _ hm⟩
    simp only [FrameHolder.unlock, source, hu, hl]
    rfl

/-- When nothing is held, the holder ends up with the buffer that was locked, if any. -/
theorem Drives.lockNext (h : c.Drives s f) (hh : holder.isHolding = f.locked)
    (hl : f.locked = false) :
    ∃ r d g, holder.lockNext (source s.queue) c = (r, ⟨r.toOption⟩, d) ∧ Locking c s f r g ∧
      r.isOk = g.locked ∧ d.Drives s g ∧
        ∀ buffer, r = .ok buffer → d.lockedData s.queue = s.picture := by
  obtain ⟨feeds, hc, hm⟩ := h
  obtain ⟨r, held, d, g, hlock, hlocking, hheld, hbuffer, hd⟩ := hc.lockNext hm hh
  have hm' := Feeds.mem_put g hm
  cases r with
  | error error =>
    have hg := hlocking.error.trans hl
    have hnone : held = none := Option.not_isSome_iff_eq_none.mp (by rw [hheld, hg]; decide)
    subst hnone
    exact ⟨_, d, g, hlock, hlocking, hg.symm, ⟨_, hd, hm'⟩, nofun⟩
  | ok buffer =>
    obtain rfl := hbuffer buffer rfl
    have hg : g.locked = true := hheld.symm
    exact ⟨_, d, g, hlock, hlocking, hg.symm, ⟨_, hd, hm'⟩, fun _ _ => hd.lockedData hm' hg⟩

theorem Drives.awaitNotice (h : c.Drives s f) (arrives : Bool) :
    ∃ b d g, c.awaitNotice s.waiter arrives = (b, d) ∧ Noticing arrives f b g ∧ d.Drives s g := by
  obtain ⟨feeds, hc, hm⟩ := h
  obtain ⟨b, d, g, feeds', hwait, hnotice, hd, hfeeds⟩ := hc.awaitNotice hm arrives
  refine ⟨b, d, g, hwait, hnotice, _, hd, ?_⟩
  rcases hfeeds with rfl | rfl
  · exact Feeds.mem_put g hm
  · exact Feeds.mem_put g (Feeds.renderFrame_mem hm)

theorem Drives.below (h : c.Drives s f) : s.queue < c.nextId ∧ s.display < c.nextId := by
  obtain ⟨feeds, hc, hm⟩ := h
  obtain ⟨hq, hd, _⟩ := hc.below _ hm
  exact ⟨hq, hd⟩

theorem failingStage?_free (h : ∀ point, c.armed point = none) : c.failingStage? = none := by
  simp [failingStage?, setupStages, h]

end Compositor

namespace Event

/-- The same event of other resources. -/
def rename (ρ : Nat → Nat) : Event → Event
  | threadPoolStarted => threadPoolStarted
  | queueCreated id => queueCreated (ρ id)
  | queueReleased id => queueReleased (ρ id)
  | displayCreated token => displayCreated (ρ token)
  | transactionApplied token => transactionApplied (ρ token)
  | displayDestroyed token => displayDestroyed (ρ token)

def IsBelow (e : Event) (next : Nat) : Prop := ∀ r, e.resource? = some r → r.number < next

theorem rename_congr {e : Event} {next : Nat} {ρ σ : Nat → Nat} (he : e.IsBelow next)
    (h : ∀ n < next, ρ n = σ n) : e.rename ρ = e.rename σ := by
  cases e with
  | threadPoolStarted => rfl
  | queueCreated | queueReleased | displayCreated | transactionApplied | displayDestroyed =>
    exact congrArg _ (h _ (he _ rfl))

end Event

/-- The numbers given out by one compositor as those that another gives out instead. -/
structure Naming (ρ : Nat → Nat) (c c₀ : Compositor) : Prop where
  mono : StrictMono ρ
  below : ∀ n < c₀.nextId, ρ n < c.nextId

/-- From here on the compositors name new resources alike. -/
def Naming.next (ρ : Nat → Nat) (c c₀ : Compositor) (n : Nat) : Nat :=
  if n < c₀.nextId then ρ n else c.nextId + (n - c₀.nextId)

theorem Naming.next_mono {ρ : Nat → Nat} {c c₀ : Compositor} (h : Naming ρ c c₀) :
    StrictMono (next ρ c c₀) := by
  intro a b hab
  have hbelow := h.below a
  have hmono := h.mono hab
  unfold next
  split
  next ha =>
    have ha' := hbelow ha
    split <;> omega
  next =>
    split <;> omega

/-- What two compositors log meanwhile, up to the names of resources. -/
structure News (ρ σ : Nat → Nat) (c c₀ d d₀ : Compositor) : Prop where
  naming : Naming σ d d₀
  keeps : ∀ n < c₀.nextId, σ n = ρ n
  events : ∃ added, d₀.events = c₀.events ++ added ∧ d.events = c.events ++ added.map (·.rename σ) ∧
    ∀ e ∈ added, e.IsBelow d₀.nextId

variable {ρ : Nat → Nat} {c c₀ d d₀ : Compositor}

theorem Naming.quiet (h : Naming ρ c c₀) (hc : c.Quiet d) (hc₀ : c₀.Quiet d₀) :
    News ρ ρ c c₀ d d₀ where
  naming := ⟨h.mono, by rw [hc.nextId, hc₀.nextId]; exact h.below⟩
  keeps _ _ := rfl
  events := ⟨[], by rw [hc₀.events, List.append_nil], by rw [hc.events]; simp, nofun⟩

theorem News.hosting {σ : Nat → Nat} (h : News ρ σ c c₀ d d₀) (p : OutputParams)
    (hσ : ∀ n, σ (d₀.nextId + n) = d.nextId + n) :
    News ρ σ c c₀ (d.hosting p) (d₀.hosting p) := by
  have hqueue := hσ 0
  have hdisplay := hσ 1
  simp only [Nat.add_zero] at hqueue
  obtain ⟨added, hadded₀, hadded, hbelow⟩ := h.events
  refine ⟨⟨h.naming.mono, fun n hn => ?_⟩, h.keeps,
    added ++ [.queueCreated d₀.nextId, .displayCreated (d₀.nextId + 1),
      .transactionApplied (d₀.nextId + 1)], ?_, ?_, fun e he r hr => ?_⟩
  · have hn' : n ≤ d₀.nextId + 1 := Nat.le_of_lt_succ hn
    have hle : σ n ≤ d.nextId + 1 := hdisplay ▸ h.naming.mono.monotone hn'
    exact Nat.lt_succ_of_le hle
  · simp only [Compositor.hosting, hadded₀, List.append_assoc]
  · simp only [Compositor.hosting, hadded, List.map_append, List.map_cons, List.map_nil,
      Event.rename, hqueue, hdisplay, List.append_assoc]
  · show r.number < d₀.nextId + 2
    rcases List.mem_append.mp he with he | he
    · have hold := hbelow e he r hr
      omega
    · simp only [List.mem_cons, List.not_mem_nil, or_false] at he
      obtain rfl | rfl | rfl := he <;> cases hr <;> simp only [Resource.number] <;> omega

end ScreenCapture
