import ScreenCapture.Capture.Probe
import ScreenCapture.Proofs.Holding
import ScreenCapture.Proofs.SetUp

namespace ScreenCapture

/-- What happens to a compositor besides the calls of a capture. -/
inductive Happening
  | arm (point : FailPoint) (status : Status)
  | render (token : DisplayToken)
  | probe (id : Int32)
  | startPool

def Happening.apply (c : Compositor) : Happening → Compositor
  | arm point status => c.arm point status
  | render token => c.renderStep token
  | probe id => (c.probe id).2
  | startPool => c.startPool

/-- What an output manager is after with a compositor that hosts one output at most: that one. -/
inductive OutputManager.Runs : OutputManager → Compositor → Option (Site × Feed) → Prop
  | nothing {c : Compositor} : c.Hosts [] → Runs .empty c none
  | output {o : VirtualOutput} {c : Compositor} {f : Feed} : o.holder.isHolding = f.locked →
      c.Hosts [(o.site, f)] → Runs ⟨some o⟩ c (some (o.site, f))

namespace Compositor

variable {c : Compositor} {feeds : Feeds} {s : Site} {f : Feed}

theorem Hosts.probe (h : c.Hosts feeds) (id : Int32) : (c.probe id).2.Hosts feeds := by
  unfold Compositor.probe panel guarded
  cases c.armed .panel with
  | some status =>
    simp only
    split <;> exact h.disarm .panel
  | none =>
    simp only
    cases c.panels.find? id with
    | some panel => exact h
    | none =>
      simp only
      split <;> exact h

theorem Hosts.startPool (h : c.Hosts feeds) : c.startPool.Hosts feeds := by
  unfold Compositor.startPool
  split
  next => exact h
  next => exact ⟨h.channels, h.displays, h.waiters, h.below⟩

/-- Only a step of its own renderer moves an output. -/
theorem Hosts.happen (h : c.Hosts feeds) (x : Happening) :
    (x.apply c).Hosts feeds ∨
      ∃ s f part, (s, f) ∈ feeds ∧ (x.apply c).Hosts (feeds.put s (f.render part)) := by
  cases x with
  | arm point status => exact .inl (h.arm point status)
  | probe id => exact .inl (h.probe id)
  | startPool => exact .inl h.startPool
  | render token =>
    by_cases ht : ∀ e ∈ feeds, e.1.display ≠ token
    · left
      simp only [Happening.apply, h.renderStep_absent ht]
      exact h
    · right
      push Not at ht
      obtain ⟨⟨s, f⟩, hm, rfl⟩ := ht
      exact ⟨s, f, f.stage.next, hm, h.renderStep hm⟩

end Compositor

/-- How a replacement can end, and what runs then. -/
inductive Replacing (c : Compositor) (p : OutputParams) :
    Except CaptureError Unit → Option (Site × Feed) → Prop
  | failed (error : CaptureError) : Replacing c p (.error error) none
  | running : p.hasZeroSide = false → Replacing c p (.ok ()) (some (c.nextSite p, .fresh))

namespace OutputManager

/-- The compositor once the manager has torn down what it ran. -/
def cleared (m : OutputManager) (c : Compositor) : Compositor :=
  match m.output with
  | none => c
  | some o => c.without o.site

/-- What replacing an output comes to. -/
def replaced (m : OutputManager) (c : Compositor) (p : OutputParams) :
    Except CaptureError Unit × OutputManager × Compositor :=
  if p.hasZeroSide then
    (.error (.setupFailed .geometry Status.badValue.name), .empty, m.cleared c)
  else
    match c.failingStage? with
    | some (stage, status) =>
      (.error (stage.error status.name), .empty, (m.cleared c).failedAt stage)
    | none => (.ok (), ⟨some (c.nextOutput p)⟩, (m.cleared c).hosting p)

variable {m : OutputManager} {c : Compositor}

theorem Runs.cleared_failingStage? (m : OutputManager) (c : Compositor) :
    (m.cleared c).failingStage? = c.failingStage? := by
  unfold OutputManager.cleared
  split <;> rfl

theorem Runs.cleared_nextOutput (m : OutputManager) (c : Compositor) (p : OutputParams) :
    (m.cleared c).nextOutput p = c.nextOutput p := by
  unfold OutputManager.cleared
  split <;> rfl

/-- The output that the manager runs, if any, is among those that the compositor hosts. -/
def Within (m : OutputManager) (c : Compositor) : Prop :=
  ∃ feeds, c.Hosts feeds ∧ ∀ o, m.output = some o → ∃ f, (o.site, f) ∈ feeds

namespace Within

theorem empty {feeds : Feeds} (h : c.Hosts feeds) : Within .empty c := ⟨feeds, h, nofun⟩

theorem cleared (h : m.Within c) : Within .empty (m.cleared c) := by
  obtain ⟨feeds, hc, hm⟩ := h
  obtain ⟨_ | o⟩ := m
  · exact .empty hc
  · obtain ⟨f, hin⟩ := hm o rfl
    exact .empty (hc.without hin)

theorem destroy_eq (h : m.Within c) : m.destroy c = (.empty, m.cleared c) := by
  obtain ⟨feeds, hc, hm⟩ := h
  obtain ⟨_ | o⟩ := m
  · rfl
  · obtain ⟨f, hin⟩ := hm o rfl
    simp only [destroy, OutputManager.cleared]
    rw [VirtualOutput.tearDown_eq hc hin]
    rfl

theorem create_eq (h : m.Within c) (p : OutputParams) : m.create c p = m.replaced c p := by
  obtain ⟨feeds, hc, _⟩ := h.cleared
  have hb := VirtualOutput.build_eq hc.unused p
  rw [Runs.cleared_failingStage?] at hb
  simp only [create, h.destroy_eq, hb, OutputManager.replaced]
  cases p.hasZeroSide with
  | true => rfl
  | false =>
    cases c.failingStage? with
    | some failing => rfl
    | none =>
      rw [← Runs.cleared_nextOutput m c p]
      rfl

theorem reconfigure_eq (h : m.Within c) (p : OutputParams) :
    m.reconfigure c p = m.replaced c p := by
  have hr : replaced .empty (m.cleared c) p = m.replaced c p := by
    simp only [replaced, Runs.cleared_failingStage?, Runs.cleared_nextOutput]
    rfl
  simp only [reconfigure, h.destroy_eq]
  rw [h.cleared.create_eq p, hr]

end Within

namespace Runs

variable {e : Option (Site × Feed)}

theorem hosts (h : m.Runs c e) : c.Hosts e.toList := by
  cases h with
  | nothing hc => exact hc
  | output _ hc => exact hc

theorem isRunning (h : m.Runs c e) : m.isRunning = e.isSome := by
  cases h <;> rfl

theorem isHolding (h : m.Runs c e) : m.isHolding = e.any (·.2.locked) := by
  cases h with
  | nothing _ => rfl
  | output hold _ => exact hold

theorem within (h : m.Runs c e) : m.Within c := by
  cases h with
  | nothing hc => exact .empty hc
  | @output o c f _ hc =>
    refine ⟨_, hc, fun o' ho => ⟨f, ?_⟩⟩
    cases ho
    exact List.mem_singleton.mpr rfl

theorem cleared (h : m.Runs c e) : Runs .empty (m.cleared c) none := by
  cases h with
  | nothing hc => exact .nothing hc
  | @output o c f _ hc =>
    have hw := hc.without (List.mem_singleton.mpr rfl)
    rw [show [(o.site, f)].filter (·.1 ≠ o.site) = [] by simp] at hw
    exact .nothing hw

theorem destroy_eq (h : m.Runs c e) : m.destroy c = (.empty, m.cleared c) := h.within.destroy_eq

theorem create_eq (h : m.Runs c e) (p : OutputParams) : m.create c p = m.replaced c p :=
  h.within.create_eq p

theorem reconfigure_eq (h : m.Runs c e) (p : OutputParams) :
    m.reconfigure c p = m.replaced c p :=
  h.within.reconfigure_eq p

theorem replaced (h : m.Runs c e) (p : OutputParams) :
    ∃ r m' d e', m.replaced c p = (r, m', d) ∧ Replacing c p r e' ∧ m'.Runs d e' := by
  have hcleared := h.cleared.hosts
  have hsite : (m.cleared c).nextSite p = c.nextSite p :=
    congrArg (·.site) (cleared_nextOutput m c p)
  unfold OutputManager.replaced
  split
  next => exact ⟨_, _, _, none, rfl, .failed _, .nothing hcleared⟩
  next hz =>
    split
    next stage _ _ =>
      exact ⟨_, _, _, none, rfl, .failed _, .nothing (hcleared.failedAt stage)⟩
    next =>
      refine ⟨_, _, _, some (c.nextSite p, .fresh), rfl, .running (by simpa using hz), ?_⟩
      have hnew := hcleared.hosting p
      rw [hsite] at hnew
      exact .output (o := c.nextOutput p) rfl hnew

variable {s : Site} {f : Feed}

theorem owned (h : m.Runs c (some (s, f))) :
    ∃ o, m.output = some o ∧ o.site = s ∧ o.holder.isHolding = f.locked := by
  cases h with
  | @output o _ _ hold _ => exact ⟨o, rfl, rfl, hold⟩

theorem lockNext (h : m.Runs c (some (s, f))) :
    ∃ r m' d g, m.lockNext c = some (r, m', d) ∧ Locking c s f r g ∧ m'.Runs d (some (s, g)) ∧
      ∀ buffer, r = .ok buffer → m'.frame? d = buffer.frame? s.picture := by
  cases h with
  | @output o c f hold hc =>
    have hm : (o.site, f) ∈ [(o.site, f)] := List.mem_singleton.mpr rfl
    obtain ⟨r, held, d, g, hlock, hlocking, hheld, hbuffer, hd⟩ := hc.lockNext hm hold
    rw [Feeds.put_singleton] at hd
    rw [VirtualOutput.site_queue] at hlock
    refine ⟨r, ⟨some { o with holder := ⟨held⟩ }⟩, d, g, ?_, hlocking, ?_, ?_⟩
    · simp only [OutputManager.lockNext, Option.map_some, hlock]
    · exact .output (o := { o with holder := ⟨held⟩ }) hheld hd
    · intro buffer hr
      have hs : held = some buffer := hbuffer buffer hr
      have hl : g.locked = true := by rw [← hheld, hs]; rfl
      have hdata := hd.lockedData (List.mem_singleton.mpr rfl) hl
      rw [VirtualOutput.site_queue] at hdata
      simp only [frame?, FrameHolder.frame?, hs, Option.bind_some, Compositor.source, hdata]

theorem unlock (h : m.Runs c (some (s, f))) :
    ∃ b m' d, m.unlock c = some (b, m', d) ∧ m'.Runs d (some (s, f.unlock)) := by
  cases h with
  | @output o c f hold hc =>
    have hm : (o.site, f) ∈ [(o.site, f)] := List.mem_singleton.mpr rfl
    cases hh : o.holder.held with
    | none =>
      have hl : f.locked = false := by rw [← hold, FrameHolder.isHolding, hh]; rfl
      have hf : f.unlock = f := by simp [Feed.unlock, ← hl]
      rw [hf]
      refine ⟨false, ⟨some o⟩, c, ?_, .output hold hc⟩
      simp only [OutputManager.unlock, Option.map_some, FrameHolder.unlock, hh]
    | some buffer =>
      obtain ⟨φ, hu, hφ⟩ := hc.unlock_snd hm
      rw [VirtualOutput.site_queue] at hu
      have hd := hc.modifyChannel hm hφ rfl rfl
      rw [Feeds.put_singleton] at hd
      refine ⟨true, ⟨some { o with holder := ⟨none⟩ }⟩, _, ?_,
        .output (o := { o with holder := ⟨none⟩ }) rfl hd⟩
      simp only [OutputManager.unlock, Option.map_some, FrameHolder.unlock, hh, Compositor.source,
        hu]
      rfl

theorem takeNotice? (h : m.Runs c (some (s, f))) :
    (f.takeNotice? = none ∧ c.takeNotice? s.waiter = none) ∨
      ∃ g d, f.takeNotice? = some g ∧ c.takeNotice? s.waiter = some d ∧ m.Runs d (some (s, g)) := by
  cases h with
  | @output o c f hold hc =>
    rcases hc.takeNotice? (List.mem_singleton.mpr rfl) with hn | ⟨g, d, hg, hd, _, hhosts⟩
    · exact .inl hn
    · rw [Feeds.put_singleton] at hhosts
      obtain ⟨_, hg'⟩ := Feed.takeNotice?_eq_some hg
      have hl : o.holder.isHolding = g.locked := by rw [hold, hg']
      exact .inr ⟨g, d, hg, hd, .output hl hhosts⟩

theorem awaitNotice (h : m.Runs c (some (s, f))) (arrives : Bool) :
    ∃ b d g, c.awaitNotice s.waiter arrives = (b, d) ∧ Noticing arrives f b g ∧
      m.Runs d (some (s, g)) := by
  cases h with
  | @output o c f hold hc =>
    have hm : (o.site, f) ∈ [(o.site, f)] := List.mem_singleton.mpr rfl
    obtain ⟨b, d, g, feeds, hwait, hnotice, hd, hfeeds⟩ := hc.awaitNotice hm arrives
    have hput : Feeds.put feeds o.site g = [(o.site, g)] := by
      rcases hfeeds with rfl | rfl
      · exact Feeds.put_singleton o.site f g
      · exact Feeds.put_singleton o.site f.renderFrame g
    rw [hput] at hd
    exact ⟨b, d, g, hwait, hnotice, .output (hold.trans hnotice.locked.symm) hd⟩

/-- An output is moved by its own renderer alone. -/
theorem happen (h : m.Runs c e) (x : Happening) :
    ∃ parts, m.Runs (x.apply c) (e.map fun e => (e.1, e.2.renders parts)) := by
  cases h with
  | @nothing c hc =>
    rcases hc.happen x with hd | ⟨s, f, part, hm, _⟩
    · exact ⟨[], .nothing hd⟩
    · cases hm
  | @output o c f hold hc =>
    rcases hc.happen x with hd | ⟨s, g, part, hm, hd⟩
    · exact ⟨[], .output hold hd⟩
    · obtain ⟨rfl, rfl⟩ := Prod.mk.inj (List.mem_singleton.mp hm)
      rw [Feeds.put_singleton] at hd
      exact ⟨[part], .output (hold.trans (g.render_locked part).symm) hd⟩

end Runs

end OutputManager

end ScreenCapture
