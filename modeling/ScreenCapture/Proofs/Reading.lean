import ScreenCapture.Proofs.Hosting

namespace ScreenCapture.Compositor

variable {c : Compositor} {feeds : Feeds} {s : Site} {f : Feed}

theorem lock_armed {status : Status} (ha : c.armed .lock = some status) (id : QueueId) :
    c.lock id = (.error status, c.disarm .lock) := by
  simp [Compositor.lock, guarded, ha]

theorem Hosts.lock_empty (h : c.Hosts feeds) (hm : (s, f) ∈ feeds) (ha : c.armed .lock = none)
    (hl : f.locked = false) (hq : f.queued = none) :
    c.lock s.queue = (.error .notEnoughData, c) := by
  simp [Compositor.lock, guarded, ha, onReader, onChannel, h.channels.find? hm, Site.channel,
    Reader.lock, Queue.acquire?, hl, hq]

theorem Hosts.lock (h : c.Hosts feeds) (hm : (s, f) ∈ feeds) (ha : c.armed .lock = none)
    (hl : f.locked = false) {n : Nat} (hq : f.queued = some n) :
    ∃ φ, c.lock s.queue = (.ok (Reader.describe (s.frame n)), c.modifyChannel s.queue φ) ∧
      φ (s.channel f) = s.channel f.lock := by
  have hf := h.channels.find? hm
  have hr : Reader.lock ⟨none⟩ (s.channel f).queue =
      .ok (Reader.describe (s.frame n), ⟨some s.picture⟩, (s.channel f.lock).queue) := by
    simp [Reader.lock, Queue.acquire?, Site.channel, hq, Feed.lock, Site.frame]
  refine ⟨fun channel =>
    { channel with queue := (s.channel f.lock).queue, reader := some ⟨some s.picture⟩ }, ?_, ?_⟩
  · have hread : (s.channel f).reader = some ⟨none⟩ := by simp [Site.channel, hl]
    simp only [Compositor.lock, guarded, ha, onReader, onChannel, hf, hread, hr]
  · simp [Site.channel, Feed.lock]

theorem Hosts.unlock_free (h : c.Hosts feeds) (hm : (s, f) ∈ feeds) (hl : f.locked = false) :
    c.unlock s.queue = (.error .badValue, c) := by
  simp [Compositor.unlock, onReader, onChannel, h.channels.find? hm, Site.channel, hl,
    Reader.unlock, Except.map]

theorem Hosts.unlock (h : c.Hosts feeds) (hm : (s, f) ∈ feeds) (hl : f.locked = true) :
    ∃ φ, c.unlock s.queue = (.ok (), c.modifyChannel s.queue φ) ∧
      φ (s.channel f) = s.channel f.unlock := by
  have hf := h.channels.find? hm
  have hr : Reader.unlock ⟨some s.picture⟩ (s.channel f).queue =
      .ok (.fresh, (s.channel f.unlock).queue) := by
    simp [Reader.unlock, Queue.freeSlot, Site.channel, Feed.unlock]
  refine ⟨fun channel =>
    { channel with queue := (s.channel f.unlock).queue, reader := some .fresh }, ?_, ?_⟩
  · have hread : (s.channel f).reader = some ⟨some s.picture⟩ := by simp [Site.channel, hl]
    simp only [Compositor.unlock, onReader, onChannel, hf, hread, hr, Except.map]
  · simp [Site.channel, Feed.unlock, Reader.fresh]

theorem modifyChannel_id (c : Compositor) (queue : QueueId) : c.modifyChannel queue id = c := by
  rw [modifyChannel, Registry.modify_id]

/-- Whether there is a buffer to give back or not. -/
theorem Hosts.unlock_snd (h : c.Hosts feeds) (hm : (s, f) ∈ feeds) :
    ∃ φ, (c.unlock s.queue).2 = c.modifyChannel s.queue φ ∧
      φ (s.channel f) = s.channel f.unlock := by
  cases hl : f.locked with
  | false =>
    have hf : f.unlock = f := by simp [Feed.unlock, ← hl]
    exact ⟨id, by rw [h.unlock_free hm hl, modifyChannel_id], by rw [hf]; rfl⟩
  | true =>
    obtain ⟨φ, hu, hφ⟩ := h.unlock hm hl
    exact ⟨φ, by rw [hu], hφ⟩

theorem Hosts.lockedData (h : c.Hosts feeds) (hm : (s, f) ∈ feeds) (hl : f.locked = true) :
    c.lockedData s.queue = s.picture := by
  simp [Compositor.lockedData, h.channels.find? hm, Site.channel, hl, Reader.lockedData]

end ScreenCapture.Compositor
