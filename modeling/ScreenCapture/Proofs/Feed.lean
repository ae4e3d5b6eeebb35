import ScreenCapture.Capture.VirtualOutput

namespace ScreenCapture

/-- What an output owns in the compositor, and its geometry. -/
structure Site where
  display : DisplayToken
  queue : QueueId
  waiter : WaiterId
  params : OutputParams
  deriving DecidableEq

def VirtualOutput.site (o : VirtualOutput) : Site := ⟨o.display, o.queue, o.waiter, o.params⟩

@[simp]
theorem VirtualOutput.site_display (o : VirtualOutput) : o.site.display = o.display := rfl

@[simp]
theorem VirtualOutput.site_queue (o : VirtualOutput) : o.site.queue = o.queue := rfl

@[simp]
theorem VirtualOutput.site_waiter (o : VirtualOutput) : o.site.waiter = o.waiter := rfl

/-- How far the renderer of a running output is with its next frame. -/
inductive FeedStage
  | idle | painting | announcing
  deriving DecidableEq

namespace FeedStage

def isPainting : FeedStage → Bool
  | painting => true
  | idle | announcing => false

def isAnnouncing : FeedStage → Bool
  | announcing => true
  | idle | painting => false

end FeedStage

/-- The sections of a renderer. -/
inductive RenderSection
  | check | commit | announce
  deriving DecidableEq

/-- All that changes in a running output. The rest follows from its site. -/
structure Feed where
  /-- Number of the frame that waits to be locked. -/
  queued : Option Nat
  locked : Bool
  nextFrame : Nat
  stage : FeedStage
  /-- Announcements that were not waited for yet. -/
  pending : Nat
  deriving DecidableEq

namespace Feed

/-- An output that was just set up. -/
def fresh : Feed :=
  { queued := none, locked := false, nextFrame := 0, stage := .idle, pending := 0 }

def render (f : Feed) : RenderSection → Feed
  | .check =>
    if f.stage = .idle ∧ f.locked = false ∧ f.queued = none then { f with stage := .painting }
    else f
  | .commit =>
    if f.stage = .painting then
      { f with
        queued := some f.nextFrame, nextFrame := f.nextFrame + 1
        stage := if f.queued.isSome then .idle else .announcing }
    else f
  | .announce =>
    if f.stage = .announcing then
      { f with pending := min (f.pending + 1) Waiter.limit, stage := .idle }
    else f

/-- Sections of the renderer, one after another. -/
def renders (f : Feed) (parts : List RenderSection) : Feed := parts.foldl render f

/-- A whole frame, if there is room for it. -/
def renderFrame (f : Feed) : Feed := f.renders [.check, .commit, .announce]

def takeNotice? (f : Feed) : Option Feed :=
  if f.pending = 0 then none else some { f with pending := f.pending - 1 }

def lock (f : Feed) : Feed := { f with queued := none, locked := true }

def unlock (f : Feed) : Feed := { f with locked := false }

/-- A queued frame that is locked and given back at once. -/
def discard (f : Feed) : Feed := { f with queued := none }

/-- There is one slot: it is painted into, or holds the queued frame, or the locked one. -/
def SingleSlot (f : Feed) : Prop :=
  f.stage.isPainting.toNat + f.queued.isSome.toNat + f.locked.toNat ≤ 1

/-- A queued frame is still to be announced, or announced, or noted by whoever waited for it. -/
def Balanced (f : Feed) (noted : Bool) : Prop :=
  f.pending + noted.toNat + f.stage.isAnnouncing.toNat = f.queued.isSome.toNat

/-- So many frames were consumed: the queued one comes next. -/
def Numbered (f : Feed) (consumed : Nat) : Prop :=
  f.nextFrame = consumed + f.queued.isSome.toNat ∧ ∀ n, f.queued = some n → n = consumed

theorem fresh_singleSlot : fresh.SingleSlot := Nat.zero_le 1

theorem fresh_balanced : fresh.Balanced false := rfl

theorem fresh_numbered : fresh.Numbered 0 := ⟨rfl, by simp [fresh]⟩

theorem SingleSlot.queued_of_painting {f : Feed} (h : f.SingleSlot) (hp : f.stage = .painting) :
    f.queued = none := by
  cases hq : f.queued with
  | none => rfl
  | some n =>
    simp only [SingleSlot, hp, hq, FeedStage.isPainting, Option.isSome_some, Bool.toNat_true] at h
    omega

theorem SingleSlot.locked_of_painting {f : Feed} (h : f.SingleSlot) (hp : f.stage = .painting) :
    f.locked = false := by
  cases hl : f.locked with
  | false => rfl
  | true =>
    simp only [SingleSlot, hp, hl, FeedStage.isPainting, Bool.toNat_true] at h
    omega

theorem SingleSlot.locked_of_queued {f : Feed} {n : Nat} (h : f.SingleSlot)
    (hq : f.queued = some n) : f.locked = false := by
  cases hl : f.locked with
  | false => rfl
  | true =>
    simp only [SingleSlot, hl, hq, Option.isSome_some, Bool.toNat_true] at h
    omega

theorem SingleSlot.render {f : Feed} (h : f.SingleSlot) (s : RenderSection) :
    (f.render s).SingleSlot := by
  cases s with
  | check =>
    simp only [Feed.render]
    split
    next hc => simp [SingleSlot, hc.2.1, hc.2.2, FeedStage.isPainting]
    next => exact h
  | commit =>
    simp only [Feed.render]
    split
    next hp =>
      have hq := h.queued_of_painting hp
      have hl := h.locked_of_painting hp
      simp [SingleSlot, hq, hl, FeedStage.isPainting]
    next => exact h
  | announce =>
    simp only [Feed.render]
    split
    next ha =>
      simpa [SingleSlot, ha, FeedStage.isPainting] using h
    next => exact h

theorem Balanced.render {f : Feed} {noted : Bool} (h : f.Balanced noted) (hs : f.SingleSlot)
    (s : RenderSection) : (f.render s).Balanced noted := by
  cases s with
  | check =>
    simp only [Feed.render]
    split
    next hc => simpa [Balanced, hc.1, FeedStage.isAnnouncing] using h
    next => exact h
  | commit =>
    simp only [Feed.render]
    split
    next hp =>
      have hq := hs.queued_of_painting hp
      simp only [Balanced, hp, hq, FeedStage.isAnnouncing, Bool.toNat_false, Option.isSome_none,
        Option.isSome_some, if_false, Bool.toNat_true, Bool.false_eq_true] at h ⊢
      omega
    next => exact h
  | announce =>
    simp only [Feed.render]
    split
    next ha =>
      -- the frame is announced once, so that the count never comes near its limit
      have hb := f.queued.isSome.toNat_le
      simp only [Balanced, ha, FeedStage.isAnnouncing, Bool.toNat_true, Bool.toNat_false,
        Waiter.limit] at h ⊢
      omega
    next => exact h

theorem Numbered.render {f : Feed} {consumed : Nat} (h : f.Numbered consumed) (hs : f.SingleSlot)
    (s : RenderSection) : (f.render s).Numbered consumed := by
  cases s with
  | check =>
    simp only [Feed.render]
    split <;> exact h
  | commit =>
    simp only [Feed.render]
    split
    next hp =>
      have hq := hs.queued_of_painting hp
      have hn : f.nextFrame = consumed := by simpa [hq] using h.1
      exact ⟨by simp [hn], fun n he => by rw [← hn]; exact (Option.some.inj he).symm⟩
    next => exact h
  | announce =>
    simp only [Feed.render]
    split <;> exact h

theorem render_locked (f : Feed) (s : RenderSection) : (f.render s).locked = f.locked := by
  cases s <;> simp only [Feed.render] <;> split <;> rfl

theorem renders_locked (f : Feed) (parts : List RenderSection) :
    (f.renders parts).locked = f.locked := by
  induction parts generalizing f with
  | nil => rfl
  | cons part parts ih => exact (ih (f.render part)).trans (f.render_locked part)

theorem renders_append (f : Feed) (parts more : List RenderSection) :
    f.renders (parts ++ more) = (f.renders parts).renders more := List.foldl_append

theorem SingleSlot.renders {f : Feed} (h : f.SingleSlot) (parts : List RenderSection) :
    (f.renders parts).SingleSlot := by
  induction parts generalizing f with
  | nil => exact h
  | cons part parts ih => exact ih (h.render part)

theorem Numbered.renders {f : Feed} {consumed : Nat} (h : f.Numbered consumed)
    (hs : f.SingleSlot) (parts : List RenderSection) : (f.renders parts).Numbered consumed := by
  induction parts generalizing f with
  | nil => exact h
  | cons part parts ih => exact ih (h.render hs part) (hs.render part)

theorem Balanced.renders {f : Feed} {noted : Bool} (h : f.Balanced noted) (hs : f.SingleSlot)
    (parts : List RenderSection) : (f.renders parts).Balanced noted := by
  induction parts generalizing f with
  | nil => exact h
  | cons part parts ih => exact ih (h.render hs part) (hs.render part)

theorem SingleSlot.lock {f : Feed} (h : f.SingleSlot) {n : Nat} (hq : f.queued = some n) :
    f.lock.SingleSlot := by
  simp only [SingleSlot, hq, Option.isSome_some, Bool.toNat_true] at h
  simp only [SingleSlot, Feed.lock, Option.isSome_none, Bool.toNat_false, Bool.toNat_true]
  omega

theorem SingleSlot.unlock {f : Feed} (h : f.SingleSlot) : f.unlock.SingleSlot := by
  simp only [SingleSlot, Feed.unlock, Bool.toNat_false] at h ⊢
  omega

theorem takeNotice?_eq_some {f g : Feed} (h : f.takeNotice? = some g) :
    0 < f.pending ∧ g = { f with pending := f.pending - 1 } := by
  simp only [takeNotice?, Option.ite_none_left_eq_some, Option.some.injEq] at h
  exact ⟨Nat.pos_of_ne_zero h.1, h.2.symm⟩

theorem SingleSlot.takeNotice {f g : Feed} (h : f.SingleSlot) (ht : f.takeNotice? = some g) :
    g.SingleSlot := by
  obtain ⟨_, rfl⟩ := takeNotice?_eq_some ht
  exact h

/-- Whoever takes an announcement notes the frame. -/
theorem Balanced.takeNotice {f g : Feed} (h : f.Balanced false) (ht : f.takeNotice? = some g) :
    g.Balanced true := by
  obtain ⟨hp, rfl⟩ := takeNotice?_eq_some ht
  simp only [Balanced, Bool.toNat_false, Bool.toNat_true] at h ⊢
  omega

theorem Balanced.lock {f : Feed} (h : f.Balanced true) : f.lock.Balanced false := by
  have hb := f.queued.isSome.toNat_le
  simp only [Balanced, Feed.lock, Bool.toNat_true, Option.isSome_none, Bool.toNat_false] at h ⊢
  omega

/-- A noted frame is queued. -/
theorem Balanced.queued {f : Feed} (h : f.Balanced true) : ∃ n, f.queued = some n := by
  cases hq : f.queued with
  | some n => exact ⟨n, rfl⟩
  | none =>
    simp only [Balanced, hq, Bool.toNat_true, Option.isSome_none, Bool.toNat_false] at h
    omega

theorem Numbered.lock {f : Feed} {consumed n : Nat} (h : f.Numbered consumed)
    (hq : f.queued = some n) : f.lock.Numbered (consumed + 1) := by
  have hn := h.1
  simp only [hq, Option.isSome_some, Bool.toNat_true] at hn
  exact ⟨by simpa [Feed.lock] using hn, by simp [Feed.lock]⟩

/-- What holds of an output throughout, when its frames are consumed one by one. -/
structure Coherent (f : Feed) (consumed : Nat) (noted : Bool) : Prop where
  slot : f.SingleSlot
  numbered : f.Numbered consumed
  balanced : f.Balanced noted

theorem fresh_coherent : fresh.Coherent 0 false :=
  ⟨fresh_singleSlot, fresh_numbered, fresh_balanced⟩

variable {f : Feed} {consumed : Nat}

theorem Coherent.renders {noted : Bool} (h : f.Coherent consumed noted)
    (parts : List RenderSection) : (f.renders parts).Coherent consumed noted :=
  ⟨h.slot.renders parts, h.numbered.renders h.slot parts, h.balanced.renders h.slot parts⟩

theorem Coherent.unlock {noted : Bool} (h : f.Coherent consumed noted) :
    f.unlock.Coherent consumed noted :=
  ⟨h.slot.unlock, h.numbered, h.balanced⟩

theorem Coherent.takeNotice {g : Feed} (h : f.Coherent consumed false)
    (ht : f.takeNotice? = some g) : g.Coherent consumed true := by
  refine ⟨h.slot.takeNotice ht, ?_, h.balanced.takeNotice ht⟩
  obtain ⟨_, rfl⟩ := takeNotice?_eq_some ht
  exact h.numbered

theorem Coherent.lock {n : Nat} (h : f.Coherent consumed true) (hq : f.queued = some n) :
    f.lock.Coherent (consumed + 1) false :=
  ⟨h.slot.lock hq, h.numbered.lock hq, h.balanced.lock⟩

/-- A renderer that may draw announces a frame, unless one was announced already. -/
theorem Coherent.pending_renderFrame (h : f.Coherent consumed false) (hl : f.locked = false)
    (hp : f.pending = 0) : f.renderFrame.pending ≠ 0 := by
  have hb := h.balanced
  simp only [Balanced, hp, Bool.toNat_false] at hb
  cases hst : f.stage with
  | idle =>
    have hq : f.queued = none := by
      cases hq : f.queued with
      | none => rfl
      | some n => simp [hst, hq, FeedStage.isAnnouncing] at hb
    simp [renderFrame, Feed.renders, Feed.render, hst, hl, hq, Waiter.limit]
  | painting =>
    have hq := h.slot.queued_of_painting hst
    simp [renderFrame, Feed.renders, Feed.render, hst, hq, Waiter.limit]
  | announcing => simp [renderFrame, Feed.renders, Feed.render, hst, Waiter.limit]

end Feed

namespace Site

/-- The buffers that the output is rendered into. -/
def canvas (s : Site) : Canvas :=
  { width := s.params.desiredWidth, height := s.params.desiredHeight
    stride := Queue.paddedWidth s.params.desiredWidth, format := VirtualOutput.pixelFormat }

/-- What is painted into each of them. -/
def picture (s : Site) : Thunk Bytes :=
  .mk fun _ => s.params.projection.paint s.canvas s.canvas.blank

def frame (s : Site) (number : Nat) : QueuedFrame :=
  { canvas := s.canvas, number, data := s.picture }

/-- The queue of an output and those who hold it. -/
def channel (s : Site) (f : Feed) : Channel where
  queue :=
    { sync := true, width := s.params.desiredWidth, height := s.params.desiredHeight
      format := VirtualOutput.pixelFormat, queued := f.queued.map s.frame, locked := f.locked
      hasReader := true, listener := some s.waiter, abandoned := false, nextFrame := f.nextFrame }
  reader := some ⟨if f.locked then some s.picture else none⟩
  producerHeld := true
  endpointHeld := true
  waitingCall := none

def phase (s : Site) : FeedStage → RenderPhase
  | .idle => .waiting
  | .painting => .painting s.canvas
  | .announcing => .announcing s.waiter

def renderer (s : Site) (f : Feed) : Renderer :=
  { surface := s.queue, projection := s.params.projection, phase := s.phase f.stage }

def shown (s : Site) (f : Feed) : VirtualDisplay :=
  { projection := some s.params.projection, renderer := some (s.renderer f) }

end Site

end ScreenCapture
