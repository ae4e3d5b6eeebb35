import ScreenCapture.Proofs.Reading
import ScreenCapture.Proofs.Rendering

namespace ScreenCapture

/-- The description under which a frame of the output is locked. -/
def Site.buffer (s : Site) (number : Nat) : LockedBuffer := Reader.describe (s.frame number)

/-- The frame that is seen in the buffer while it is locked. -/
def Site.capture (s : Site) (number : Nat) (size : UInt32) : Frame :=
  { data := s.picture, format := .ofCode VirtualOutput.pixelFormat
    width := s.params.desiredWidth, height := s.params.desiredHeight
    stride := Queue.paddedWidth s.params.desiredWidth
    bytesPerPixel := VirtualOutput.pixelFormat.bytesPerPixel, size, number, timestamp := 0 }

theorem Site.buffer_frame? {s : Site} {n : Nat} {size : UInt32}
    (h : (s.buffer n).size? = some size) :
    (s.buffer n).frame? s.picture = some (s.capture n size) := by
  rw [LockedBuffer.frame?, h]
  rfl

/-- How a lock can end, and what moves then. -/
inductive Locking (c : Compositor) (s : Site) (f : Feed) :
    Except CaptureError LockedBuffer → Feed → Prop
  | held : f.locked = true → Locking c s f (.error (.lockFailed .invalidOperation)) f
  | armed {status : Status} : f.locked = false → c.armed .lock = some status →
      Locking c s f (.error (.lockFailed status.name)) f
  | empty : f.locked = false → c.armed .lock = none → f.queued = none →
      Locking c s f (.error (.lockFailed .notEnoughData)) f
  | large {n : Nat} : f.locked = false → c.armed .lock = none → f.queued = some n →
      (s.buffer n).size? = none → Locking c s f (.error (.lockFailed .badValue)) f.discard
  | locked {n : Nat} {size : UInt32} : f.locked = false → c.armed .lock = none →
      f.queued = some n → (s.buffer n).size? = some size → Locking c s f (.ok (s.buffer n)) f.lock

/-- How a wait can end, and what moves meanwhile. -/
inductive Noticing (arrives : Bool) (f : Feed) : Bool → Feed → Prop
  | announced {g : Feed} : f.takeNotice? = some g → Noticing arrives f true g
  | rendered {g : Feed} : f.takeNotice? = none → arrives = true →
      f.renderFrame.takeNotice? = some g → Noticing arrives f true g
  | silent : f.takeNotice? = none → arrives = true → f.renderFrame.takeNotice? = none →
      Noticing arrives f false f.renderFrame
  | vain : f.takeNotice? = none → arrives = false → Noticing arrives f false f

theorem Noticing.locked {arrives b : Bool} {f g : Feed} (h : Noticing arrives f b g) :
    g.locked = f.locked := by
  cases h with
  | announced hg =>
    obtain ⟨_, rfl⟩ := Feed.takeNotice?_eq_some hg
    rfl
  | rendered _ _ hg =>
    obtain ⟨_, rfl⟩ := Feed.takeNotice?_eq_some hg
    exact f.renders_locked _
  | silent => exact f.renders_locked _
  | vain => rfl

theorem Noticing.keeps {arrives b : Bool} {f g : Feed} {consumed : Nat}
    (h : Noticing arrives f b g) (hf : f.Coherent consumed false) : g.Coherent consumed b := by
  cases h with
  | announced hg => exact hf.takeNotice hg
  | rendered _ _ hg => exact (hf.renders _).takeNotice hg
  | silent => exact hf.renders _
  | vain => exact hf

/-- A wait that lasts as long as it takes is not in vain. -/
theorem Noticing.arrives {b : Bool} {f g : Feed} {consumed : Nat} (h : Noticing true f b g)
    (hf : f.Coherent consumed false) (hl : f.locked = false) : b = true := by
  cases h with
  | announced => rfl
  | rendered => rfl
  | silent hn _ hsilent =>
    have hp : f.pending = 0 := by simpa [Feed.takeNotice?] using hn
    have hr : f.renderFrame.pending = 0 := by simpa [Feed.takeNotice?] using hsilent
    exact absurd hr (hf.pending_renderFrame hl hp)
  | vain _ ha => cases ha

theorem Feeds.renderFrame_mem {feeds : Feeds} {s : Site} {f : Feed} (hm : (s, f) ∈ feeds) :
    (s, f.renderFrame) ∈ feeds.map fun e => (e.1, e.2.renderFrame) :=
  List.mem_map.mpr ⟨(s, f), hm, rfl⟩

namespace Compositor

variable {c : Compositor} {feeds : Feeds} {s : Site} {f : Feed}

theorem Hosts.disarm (h : c.Hosts feeds) (point : FailPoint) : (c.disarm point).Hosts feeds :=
  ⟨h.channels, h.displays, h.waiters, h.below⟩

theorem Hosts.arm (h : c.Hosts feeds) (point : FailPoint) (status : Status) :
    (c.arm point status).Hosts feeds :=
  ⟨h.channels, h.displays, h.waiters, h.below⟩

theorem Hosts.lockNext (h : c.Hosts feeds) (hm : (s, f) ∈ feeds) {holder : FrameHolder}
    (hh : holder.isHolding = f.locked) :
    ∃ r held d g, holder.lockNext (source s.queue) c = (r, ⟨held⟩, d) ∧ Locking c s f r g ∧
      held.isSome = g.locked ∧ (∀ buffer, r = .ok buffer → held = some buffer) ∧
        d.Hosts (feeds.put s g) := by
  cases hl : f.locked with
  | true =>
    refine ⟨_, holder.held, c, f, ?_, .held hl, hh, nofun, h.put_self hm⟩
    simp only [FrameHolder.lockNext, hh, hl, if_true]
    rfl
  | false =>
    have hnone : holder.isHolding = false := hh.trans hl
    have hheld : holder.held.isSome = f.locked := hh
    simp only [FrameHolder.lockNext, hnone, Bool.false_eq_true, if_false, source]
    cases ha : c.armed .lock with
    | some status =>
      rw [lock_armed ha]
      exact ⟨_, holder.held, _, f, rfl, .armed hl ha, hheld, nofun,
        (h.put_self hm).disarm .lock⟩
    | none =>
      cases hq : f.queued with
      | none =>
        rw [h.lock_empty hm ha hl hq]
        exact ⟨_, holder.held, c, f, rfl, .empty hl ha hq, hheld, nofun, h.put_self hm⟩
      | some n =>
        obtain ⟨φ, hlock, hφ⟩ := h.lock hm ha hl hq
        have h1 := h.modifyChannel hm hφ rfl rfl
        have hm1 := Feeds.mem_put f.lock hm
        simp only [hlock]
        cases hsize : (s.buffer n).size? with
        | some size =>
          refine ⟨_, some (s.buffer n), _, f.lock, ?_, .locked hl ha hq hsize, rfl, ?_, h1⟩
          · simp only [show (Reader.describe (s.frame n)).size? = some size from hsize]
            rfl
          · intro buffer he
            exact congrArg some (Except.ok.inj he)
        | none =>
          -- the buffer is too large, and goes back at once
          obtain ⟨ψ, hunlock, hψ⟩ := h1.unlock hm1 rfl
          have h2 := h1.modifyChannel hm1 hψ rfl rfl
          rw [Feeds.put_put] at h2
          have hf : f.lock.unlock = f.discard := by
            simp [Feed.lock, Feed.unlock, Feed.discard, hl]
          refine ⟨_, holder.held, _, f.discard, ?_, .large hl ha hq hsize, hheld, ?_, hf ▸ h2⟩
          · simp only [show (Reader.describe (s.frame n)).size? = none from hsize, hunlock]
            rfl
          · intro buffer he
            cases he

theorem Hosts.awaitNotice (h : c.Hosts feeds) (hm : (s, f) ∈ feeds) (arrives : Bool) :
    ∃ b d g feeds', c.awaitNotice s.waiter arrives = (b, d) ∧ Noticing arrives f b g ∧
      d.Hosts (Feeds.put feeds' s g) ∧
        (feeds' = feeds ∨ feeds' = feeds.map fun e => (e.1, e.2.renderFrame)) := by
  rcases h.takeNotice? hm with ⟨hf, hc⟩ | ⟨g, d, hf, hc, _, hd⟩
  · cases arrives with
    | false =>
      refine ⟨false, c, f, feeds, ?_, .vain hf rfl, h.put_self hm, .inl rfl⟩
      simp only [Compositor.awaitNotice, hc, Bool.false_eq_true, if_false]
    | true =>
      have hm1 := Feeds.renderFrame_mem hm
      rcases h.renderAll.takeNotice? hm1 with ⟨hf1, hc1⟩ | ⟨g, d, hf1, hc1, _, hd1⟩
      · refine ⟨false, c.renderAll, f.renderFrame, _, ?_, .silent hf rfl hf1,
          h.renderAll.put_self hm1, .inr rfl⟩
        simp only [Compositor.awaitNotice, hc, if_true, hc1]
      · refine ⟨true, d, g, _, ?_, .rendered hf rfl hf1, hd1, .inr rfl⟩
        simp only [Compositor.awaitNotice, hc, if_true, hc1]
  · refine ⟨true, d, g, feeds, ?_, .announced hf, hd, .inl rfl⟩
    simp only [Compositor.awaitNotice, hc]

end Compositor

end ScreenCapture
