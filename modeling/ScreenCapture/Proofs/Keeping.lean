import ScreenCapture.Proofs.Capturing
import ScreenCapture.Proofs.Sizing

namespace ScreenCapture

/-- An output that is kept hands out its frames one by one, in their order. -/
theorem Moving.keeps {c : Compositor} {p : OutputParams} {s : Site} {f : Feed}
    {noted noted' : Bool} {answer : Answer} {e : Option (Site × Feed)} {consumed : Nat}
    (h : Moving c p (some (s, f)) noted answer e noted') (hk : answer.replaces = false)
    (hz : s.params.hasZeroSide = false) (hsize : s.params.frameSize < 2 ^ 32)
    (hf : f.Coherent consumed noted) :
    ∃ g, e = some (s, g) ∧ g.Coherent (consumed + answer.isFrame.toNat) noted' ∧
      ∀ frame, answer = .consumed (.ok frame) →
        frame = s.capture consumed (UInt32.ofNat s.params.frameSize) := by
  cases h with
  | set | waitRefused | ready | consumeRefused => exact ⟨f, rfl, hf, nofun⟩
  | applyRefused | applied | released => cases hk
  | @waited _ _ _ b _ hnotice => exact ⟨_, rfl, hnotice.keeps hf.unlock, nofun⟩
  | lockFailed hlocking =>
    cases hlocking with
    | held | armed | empty => exact ⟨f, rfl, hf, nofun⟩
    | large _ _ _ hlarge =>
      -- only a frame that cannot be described would be lost
      rw [Site.buffer_size? hz hsize] at hlarge
      cases hlarge
  | @consumed _ _ n size _ hq hdescribed =>
    refine ⟨f.lock, rfl, hf.lock hq, ?_⟩
    intro frame he
    have hs := Option.some.inj (hdescribed.symm.trans (Site.buffer_size? hz hsize n))
    rw [← hf.numbered.2 n hq, ← hs]
    exact (Except.ok.inj (Answer.consumed.inj he)).symm

/-- A noted frame is there to be locked. -/
theorem Moving.consumes {c : Compositor} {p : OutputParams} {s : Site} {f : Feed} {noted' : Bool}
    {r : Except CaptureError Frame} {e : Option (Site × Feed)} {consumed : Nat}
    (h : Moving c p (some (s, f)) true (.consumed r) e noted') (ha : c.armed .lock = none)
    (hl : f.locked = false) (hz : s.params.hasZeroSide = false)
    (hsize : s.params.frameSize < 2 ^ 32) (hf : f.Coherent consumed true) :
    ∃ frame, r = .ok frame := by
  cases h with
  | consumed => exact ⟨_, rfl⟩
  | lockFailed hlocking =>
    cases hlocking with
    | held hheld => rw [hl] at hheld; cases hheld
    | armed _ harmed => rw [ha] at harmed; cases harmed
    | empty _ _ hempty =>
      obtain ⟨n, hq⟩ := hf.balanced.queued
      rw [hempty] at hq
      cases hq
    | large _ _ _ hlarge => rw [Site.buffer_size? hz hsize] at hlarge; cases hlarge

namespace CaptureAction

/-- What is known of an output that is kept, once so many of its frames were consumed. -/
def Keeps (site : Site) (s : Controller × Compositor) (consumed : Nat) : Prop :=
  ∃ f, s.1.Tracks s.2 (some (site, f)) ∧ f.Coherent consumed s.1.framePending

variable {site : Site} {s : Controller × Compositor} {consumed : Nat}

theorem Keeps.step (h : Keeps site s consumed) (hz : site.params.hasZeroSide = false)
    (hsize : site.params.frameSize < 2 ^ 32) {a : CaptureAction} (ha : a.replaces = false) :
    Keeps site (a.step s).2 (consumed + (a.step s).1.countP Answer.isFrame) := by
  obtain ⟨f, htracks, hf⟩ := h
  cases a with
  | operate op =>
    obtain ⟨answer, k', d, e', he, hd⟩ := htracks.perform op
    have hanswer : answer.replaces = false := (Operation.replaces_answer he).trans ha
    obtain ⟨g, rfl, hg, _⟩ := hd.moving.keeps hanswer hz hsize hf
    simp only [CaptureAction.step, he]
    refine ⟨g, hd.tracks, ?_⟩
    rw [List.countP_singleton]
    cases hframe : answer.isFrame <;> simpa [hframe] using hg
  | happen x =>
    obtain ⟨parts, hd⟩ := htracks.happen x
    exact ⟨f.renders parts, hd, hf.renders parts⟩

theorem Keeps.run (actions : List CaptureAction) (h : Keeps site s consumed)
    (hz : site.params.hasZeroSide = false) (hsize : site.params.frameSize < 2 ^ 32)
    (hk : ∀ a ∈ actions, a.replaces = false) :
    Keeps site (run actions s).2 (consumed + (run actions s).1.countP Answer.isFrame) := by
  induction actions generalizing s consumed with
  | nil => exact h
  | cons a rest ih =>
    have h' := h.step hz hsize (hk a List.mem_cons_self)
    have hrest := ih h' fun b hb => hk b (List.mem_cons_of_mem a hb)
    simp only [CaptureAction.run, List.countP_append]
    rwa [Nat.add_assoc] at hrest

theorem Keeps.waits (h : Keeps site s consumed) : (s.1.waitForFrame s.2).1 = .ok true := by
  obtain ⟨f, htracks, hf⟩ := h
  unfold Controller.waitForFrame Controller.waitAs
  rcases htracks.beginWait .wait with ⟨hs, _⟩ | ⟨_, hb⟩ | ⟨s', f', m, d, he, hp, hb, hd⟩
  · rw [htracks.running] at hs
    cases hs
  · rw [hb]
  · obtain ⟨rfl, rfl⟩ := Prod.mk.inj (Option.some.inj he)
    obtain ⟨b, d', g, hwait, hnotice, _⟩ := hd.runs.awaitNotice true
    rw [hp] at hf
    obtain rfl := hnotice.arrives hf.unlock rfl
    rw [hb]
    simp only [hwait]

theorem Keeps.consumes (h : Keeps site s consumed) (hz : site.params.hasZeroSide = false)
    (hsize : site.params.frameSize < 2 ^ 32) (hs : s.1.state = .frameReady)
    (ha : s.2.armed .lock = none) : ∃ frame, (s.1.consume s.2).1 = .ok frame := by
  obtain ⟨f, htracks, hf⟩ := h
  have hp := htracks.noted hs
  obtain ⟨_, _, hmoving⟩ := htracks.consume_moving hp
  rw [hp] at hf
  exact hmoving.consumes ha (htracks.unlocked hs) hz hsize hf

/-- What is consumed is the frame that is due. -/
theorem Keeps.captures (h : Keeps site s consumed) (hz : site.params.hasZeroSide = false)
    (hsize : site.params.frameSize < 2 ^ 32) {frame : Frame}
    (hframe : (s.1.consume s.2).1 = .ok frame) :
    frame = site.capture consumed (UInt32.ofNat site.params.frameSize) := by
  obtain ⟨f, htracks, hf⟩ := h
  obtain ⟨r, k', d, e', he, hd⟩ := htracks.consume
  rw [he] at hframe
  obtain ⟨_, _, _, hcapture⟩ := hd.moving.keeps rfl hz hsize hf
  exact hcapture frame (congrArg Answer.consumed hframe)

end CaptureAction

theorem Moving.of_applied {c : Compositor} {p : OutputParams} {e e' : Option (Site × Feed)}
    {noted noted' : Bool} (h : Moving c p e noted (.applied (.ok ())) e' noted') :
    p.hasZeroSide = false ∧ e' = some (c.nextSite p, .fresh) ∧ noted' = false := by
  cases h with
  | applied hreplacing =>
    cases hreplacing with
    | running hz => exact ⟨hz, rfl, rfl⟩

theorem Controller.Tracks.apply_ok {k : Controller} {c : Compositor} {e : Option (Site × Feed)}
    (h : k.Tracks c e) (hok : (k.apply c).1 = .ok ()) :
    k.params.hasZeroSide = false ∧ CaptureAction.Keeps (c.nextSite k.params) (k.apply c).2 0 := by
  obtain ⟨r, k', d, e', he, hd⟩ := h.apply
  rw [he] at hok ⊢
  obtain rfl : r = .ok () := hok
  obtain ⟨hz, rfl, hnoted⟩ := hd.moving.of_applied
  exact ⟨hz, .fresh, hd.tracks, hnoted ▸ Feed.fresh_coherent⟩

/-- What runs is a proper output, and its frames can be consumed if their size fits in a word. -/
def Consumable (e : Option (Site × Feed)) (noted : Bool) : Prop :=
  ∀ s f, e = some (s, f) → s.params.hasZeroSide = false ∧
    (s.params.frameSize < 2 ^ 32 → ∃ consumed, f.Coherent consumed noted)

theorem Moving.site {c : Compositor} {p : OutputParams} {e e' : Option (Site × Feed)}
    {noted noted' : Bool} {answer : Answer} (h : Moving c p e noted answer e' noted')
    (hk : answer.replaces = false) : e'.map (·.1) = e.map (·.1) := by
  cases h with
  | set | waitRefused | ready | consumeRefused | waited | lockFailed | consumed => rfl
  | applyRefused | applied | released => cases hk

theorem Moving.consumable {c : Compositor} {p : OutputParams} {e e' : Option (Site × Feed)}
    {noted noted' : Bool} {answer : Answer} (h : Moving c p e noted answer e' noted')
    (hs : Consumable e noted) : Consumable e' noted' := by
  cases hk : answer.replaces with
  | false =>
    intro s g he
    have hsite := h.site hk
    rw [he] at hsite
    cases e with
    | none => cases hsite
    | some x =>
      obtain ⟨s', f⟩ := x
      obtain rfl : s = s' := Option.some.inj hsite
      obtain ⟨hz, hf⟩ := hs s f rfl
      refine ⟨hz, fun hsize => ?_⟩
      obtain ⟨consumed, hf⟩ := hf hsize
      obtain ⟨g', he', hg', _⟩ := h.keeps hk hz hsize hf
      obtain rfl : g = g' := (Prod.mk.inj (Option.some.inj (he.symm.trans he'))).2
      exact ⟨_, hg'⟩
  | true =>
    cases h with
    | set | waitRefused | ready | waited | consumeRefused | lockFailed | consumed => cases hk
    | applyRefused => exact hs
    | released => exact nofun
    | applied hreplacing =>
      cases hreplacing with
      | failed error => exact nofun
      | running hz =>
        intro s f he
        obtain ⟨rfl, rfl⟩ := Prod.mk.inj (Option.some.inj he)
        exact ⟨hz, fun _ => ⟨0, Feed.fresh_coherent⟩⟩

theorem Consumable.renders {e : Option (Site × Feed)} {noted : Bool} (h : Consumable e noted)
    (parts : List RenderSection) : Consumable (e.map fun e => (e.1, e.2.renders parts)) noted := by
  intro s g he
  obtain ⟨⟨s', f⟩, rfl, hx⟩ := Option.map_eq_some_iff.mp he
  obtain ⟨rfl, rfl⟩ := Prod.mk.inj hx
  obtain ⟨hz, hf⟩ := h s' f rfl
  refine ⟨hz, fun hsize => ?_⟩
  obtain ⟨consumed, hf⟩ := hf hsize
  exact ⟨consumed, hf.renders parts⟩

theorem CaptureAction.consumable_step {s : Controller × Compositor} {e : Option (Site × Feed)}
    (h : s.1.Tracks s.2 e) (hs : Consumable e s.1.framePending) (a : CaptureAction) :
    ∃ e', (a.step s).2.1.Tracks (a.step s).2.2 e' ∧ Consumable e' (a.step s).2.1.framePending := by
  cases a with
  | operate op =>
    obtain ⟨answer, k', d, e', he, hd⟩ := h.perform op
    simp only [step, he]
    exact ⟨e', hd.tracks, hd.moving.consumable hs⟩
  | happen x =>
    obtain ⟨parts, hd⟩ := h.happen x
    exact ⟨_, hd, hs.renders parts⟩

theorem CaptureAction.consumable_run (actions : List CaptureAction) {s : Controller × Compositor}
    {e : Option (Site × Feed)} (h : s.1.Tracks s.2 e) (hs : Consumable e s.1.framePending) :
    ∃ e', (run actions s).2.1.Tracks (run actions s).2.2 e' ∧
      Consumable e' (run actions s).2.1.framePending := by
  induction actions generalizing s e with
  | nil => exact ⟨e, h, hs⟩
  | cons a rest ih =>
    obtain ⟨_, h', hs'⟩ := consumable_step h hs a
    exact ih h' hs'

end ScreenCapture
