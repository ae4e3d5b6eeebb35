import ScreenCapture.Proofs.Kinship
import ScreenCapture.Proofs.Replacing

namespace ScreenCapture

variable {exact noted : Bool} {ρ : Nat → Nat} {c c₀ d d₀ : Compositor}

/-- Outputs that differ by their names only. -/
structure VirtualOutput.Twin (ρ : Nat → Nat) (o o₀ : VirtualOutput) : Prop where
  display : o.display = ρ o₀.display
  queue : o.queue = ρ o₀.queue
  holder : o.holder = o₀.holder
  params : o.params = o₀.params

namespace OutputManager

theorem Within.of_drives {o : VirtualOutput} {f : Feed} (h : c.Drives o.site f) :
    Within ⟨some o⟩ c := by
  obtain ⟨feeds, hosts, hm⟩ := h
  refine ⟨feeds, hosts, fun o' ho => ?_⟩
  cases ho
  exact ⟨f, hm⟩

/-- A new output takes the place of the one that ran. -/
theorem Within.hosting {m : OutputManager} (h : m.Within c) (p : OutputParams) :
    ((m.cleared c).hosting p).Drives (c.nextOutput p).site .fresh := by
  obtain ⟨feeds, hosts, _⟩ := h.cleared
  have hsite : (m.cleared c).nextSite p = (c.nextOutput p).site :=
    congrArg (·.site) (Runs.cleared_nextOutput m c p)
  exact ⟨_, hosts.hosting p, by simp [hsite]⟩

/-- Managers that run such outputs, in which kindred feeds move, or that run nothing. -/
inductive Twin (exact noted : Bool) (ρ : Nat → Nat) (c c₀ : Compositor) :
    OutputManager → OutputManager → Prop
  | nothing : Twin exact noted ρ c c₀ .empty .empty
  | output {o o₀ : VirtualOutput} {f f₀ : Feed} : o.Twin ρ o₀ → o₀.holder.isHolding = f₀.locked →
      c.Drives o.site f → c₀.Drives o₀.site f₀ → Feed.Kin noted exact f f₀ →
      Twin exact noted ρ c c₀ ⟨some o⟩ ⟨some o₀⟩

namespace Twin

variable {m m₀ : OutputManager}

theorem isRunning (h : Twin exact noted ρ c c₀ m m₀) : m.isRunning = m₀.isRunning := by
  cases h <;> rfl

theorem isHolding (h : Twin exact noted ρ c c₀ m m₀) : m.isHolding = m₀.isHolding := by
  cases h with
  | nothing => rfl
  | output ho => exact congrArg FrameHolder.isHolding ho.holder

theorem within (h : Twin exact noted ρ c c₀ m m₀) (hc : ∃ feeds, c.Hosts feeds)
    (hc₀ : ∃ feeds, c₀.Hosts feeds) : m.Within c ∧ m₀.Within c₀ := by
  cases h with
  | nothing =>
    obtain ⟨feeds, hosts⟩ := hc
    obtain ⟨feeds₀, hosts₀⟩ := hc₀
    exact ⟨.empty hosts, .empty hosts₀⟩
  | output _ _ hf hf₀ => exact ⟨.of_drives hf, .of_drives hf₀⟩

theorem unlock {o o₀ : VirtualOutput} (h : Twin exact noted ρ c c₀ ⟨some o⟩ ⟨some o₀⟩) :
    ∃ b d d₀, OutputManager.unlock ⟨some o⟩ c = some (b, ⟨some { o with holder := .empty }⟩, d) ∧
      OutputManager.unlock ⟨some o₀⟩ c₀ = some (b, ⟨some { o₀ with holder := .empty }⟩, d₀) ∧
      Twin exact noted ρ d d₀ ⟨some { o with holder := .empty }⟩
        ⟨some { o₀ with holder := .empty }⟩ ∧ c.Quiet d ∧ c₀.Quiet d₀ := by
  cases h with
  | @output _ _ f f₀ ho hh hf hf₀ hkin =>
    have hh' : o.holder.isHolding = f.locked := by rw [ho.holder, hh, hkin.locked]
    have hquiet := o.holder.quiet_unlock c o.queue
    have hquiet₀ := o₀.holder.quiet_unlock c₀ o₀.queue
    obtain ⟨d, hu, hd⟩ := hf.unlockHeld hh'
    obtain ⟨d₀, hu₀, hd₀⟩ := hf₀.unlockHeld hh
    rw [VirtualOutput.site_queue] at hu hu₀
    rw [hu] at hquiet
    rw [hu₀] at hquiet₀
    refine ⟨f.locked, d, d₀, ?_, ?_, ?_, hquiet, hquiet₀⟩
    · simp only [OutputManager.unlock, Option.map_some, hu]
    · simp only [OutputManager.unlock, Option.map_some, hu₀, hkin.locked]
    · exact .output ⟨ho.display, ho.queue, rfl, ho.params⟩ rfl hd hd₀ hkin.unlock

/-- Both lock the noted frame, and see the same in it. -/
theorem lockNext {o o₀ : VirtualOutput} (h : Twin exact true ρ c c₀ ⟨some o⟩ ⟨some o₀⟩)
    (hfree : o₀.holder.isHolding = false) (ha : c.armed .lock = none)
    (ha₀ : c₀.armed .lock = none) :
    ∃ r r₀ d d₀,
      OutputManager.lockNext ⟨some o⟩ c = some (r, ⟨some { o with holder := ⟨r.toOption⟩ }⟩, d) ∧
      OutputManager.lockNext ⟨some o₀⟩ c₀ =
        some (r₀, ⟨some { o₀ with holder := ⟨r₀.toOption⟩ }⟩, d₀) ∧
      c.Quiet d ∧ c₀.Quiet d₀ ∧
      ((exact = false →
          r ≠ .error (.lockFailed .badValue) ∧ r₀ ≠ .error (.lockFailed .badValue)) → r = r₀ ∧
        Twin exact (!r₀.isOk) ρ d d₀ ⟨some { o with holder := ⟨r.toOption⟩ }⟩
          ⟨some { o₀ with holder := ⟨r₀.toOption⟩ }⟩ ∧
        frame? ⟨some { o with holder := ⟨r.toOption⟩ }⟩ d =
          frame? ⟨some { o₀ with holder := ⟨r₀.toOption⟩ }⟩ d₀) := by
  cases h with
  | @output _ _ f f₀ ho hh hf hf₀ hkin =>
    have hl₀ : f₀.locked = false := hh.symm.trans hfree
    have hl : f.locked = false := hkin.locked.trans hl₀
    have hh' : o.holder.isHolding = f.locked := by rw [ho.holder, hh, hkin.locked]
    have hquiet := o.holder.quiet_lockNext c o.queue
    have hquiet₀ := o₀.holder.quiet_lockNext c₀ o₀.queue
    obtain ⟨r, d, g, hlock, hlocking, hok, hd, hdata⟩ := hf.lockNext hh' hl
    obtain ⟨r₀, d₀, g₀, hlock₀, hlocking₀, hok₀, hd₀, hdata₀⟩ := hf₀.lockNext hh hl₀
    rw [VirtualOutput.site_queue] at hlock hlock₀ hdata hdata₀
    rw [hlock] at hquiet
    rw [hlock₀] at hquiet₀
    refine ⟨r, r₀, d, d₀, ?_, ?_, hquiet, hquiet₀, fun hserved => ?_⟩
    · simp only [OutputManager.lockNext, Option.map_some, hlock]
    · simp only [OutputManager.lockNext, Option.map_some, hlock₀]
    · obtain ⟨rfl, hkin'⟩ := hkin.locks hlocking hlocking₀ ho.params ha ha₀ hserved
      refine ⟨rfl, .output ⟨ho.display, ho.queue, rfl, ho.params⟩ ?_ hd hd₀ hkin', ?_⟩
      · rw [← hok₀]
        cases r <;> rfl
      · cases r with
        | error => rfl
        | ok buffer =>
          show buffer.frame? (d.lockedData o.queue) = buffer.frame? (d₀.lockedData o₀.queue)
          have hparams : o.site.params = o₀.site.params := ho.params
          rw [hdata buffer rfl, hdata₀ buffer rfl, Site.picture_eq hparams]

theorem awaitNotice {o o₀ : VirtualOutput} (h : Twin exact false ρ c c₀ ⟨some o⟩ ⟨some o₀⟩)
    (arrives : Bool) :
    ∃ b b₀ d d₀, c.awaitNotice o.waiter arrives = (b, d) ∧
      c₀.awaitNotice o₀.waiter arrives = (b₀, d₀) ∧ c.Quiet d ∧ c₀.Quiet d₀ ∧
      ((exact = false → b = true ∧ b₀ = true) →
        b = b₀ ∧ Twin exact b ρ d d₀ ⟨some o⟩ ⟨some o₀⟩) := by
  cases h with
  | @output _ _ f f₀ ho hh hf hf₀ hkin =>
    have hquiet := Compositor.Quiet.awaitNotice (c := c) o.waiter arrives
    have hquiet₀ := Compositor.Quiet.awaitNotice (c := c₀) o₀.waiter arrives
    obtain ⟨b, d, g, hwait, hnotice, hd⟩ := hf.awaitNotice arrives
    obtain ⟨b₀, d₀, g₀, hwait₀, hnotice₀, hd₀⟩ := hf₀.awaitNotice arrives
    rw [VirtualOutput.site_waiter] at hwait hwait₀
    rw [hwait] at hquiet
    rw [hwait₀] at hquiet₀
    refine ⟨b, b₀, d, d₀, hwait, hwait₀, hquiet, hquiet₀, fun hserved => ?_⟩
    obtain ⟨rfl, hkin'⟩ := hkin.waits hnotice hnotice₀ hserved
    exact ⟨rfl, .output ho (hh.trans hnotice₀.locked.symm) hd hd₀ hkin'⟩

theorem farewell {σ : Nat → Nat} (h : Twin exact noted ρ c c₀ m m₀)
    (hσ : ∀ n < c₀.nextId, σ n = ρ n) :
    m.farewell = m₀.farewell.map (·.rename σ) ∧ ∀ e ∈ m₀.farewell, e.IsBelow c₀.nextId := by
  cases h with
  | nothing => exact ⟨rfl, nofun⟩
  | @output o o₀ f f₀ ho hh hf hf₀ hkin =>
    obtain ⟨hq, hd⟩ := hf₀.below
    rw [VirtualOutput.site_queue] at hq
    rw [VirtualOutput.site_display] at hd
    constructor
    · simp only [OutputManager.farewell, List.map_cons, List.map_nil, Event.rename, ho.display,
        ho.queue]
      rw [hσ _ hd, hσ _ hq]
    · intro e he
      simp only [OutputManager.farewell, List.mem_cons, List.not_mem_nil, or_false] at he
      rintro r hr
      obtain rfl | rfl := he <;> cases hr
      · exact hd
      · exact hq

theorem cleared {σ : Nat → Nat} (h : Twin exact noted ρ c c₀ m m₀) (hnames : Naming ρ c c₀)
    (hmono : StrictMono σ) (hσ : ∀ n < c₀.nextId, σ n = ρ n) :
    News ρ σ c c₀ (m.cleared c) (m₀.cleared c₀) := by
  obtain ⟨hfarewell, hbelow⟩ := h.farewell hσ
  refine ⟨⟨hmono, ?_⟩, hσ, m₀.farewell, cleared_events m₀ c₀, ?_, ?_⟩
  · rw [cleared_nextId, cleared_nextId]
    intro n hn
    rw [hσ n hn]
    exact hnames.below n hn
  · rw [cleared_events, hfarewell]
  · rw [cleared_nextId]
    exact hbelow

theorem destroy (h : Twin exact noted ρ c c₀ m m₀) (hc : ∃ feeds, c.Hosts feeds)
    (hc₀ : ∃ feeds, c₀.Hosts feeds) (hnames : Naming ρ c c₀) :
    ∃ d d₀, m.destroy c = (.empty, d) ∧ m₀.destroy c₀ = (.empty, d₀) ∧ News ρ ρ c c₀ d d₀ := by
  obtain ⟨hm, hm₀⟩ := h.within hc hc₀
  have hnews := h.cleared hnames hnames.mono fun _ _ => rfl
  exact ⟨_, _, hm.destroy_eq, hm₀.destroy_eq, hnews⟩

/-- Both get a new output, or find the same fault in its geometry. -/
theorem reconfigure (h : Twin exact noted ρ c c₀ m m₀) (hc : ∃ feeds, c.Hosts feeds)
    (hc₀ : ∃ feeds, c₀.Hosts feeds) (hnames : Naming ρ c c₀)
    (ha : ∀ point, c.armed point = none) (ha₀ : ∀ point, c₀.armed point = none)
    (p : OutputParams) :
    ∃ r m' d m₀' d₀, m.reconfigure c p = (r, m', d) ∧ m₀.reconfigure c₀ p = (r, m₀', d₀) ∧
      m₀'.isRunning = r.isOk ∧ m₀'.isHolding = false ∧
      Twin exact false (Naming.next ρ c c₀) d d₀ m' m₀' ∧
      News ρ (Naming.next ρ c c₀) c c₀ d d₀ := by
  obtain ⟨hm, hm₀⟩ := h.within hc hc₀
  have hnews := h.cleared hnames hnames.next_mono fun n hn => if_pos hn
  rw [hm.reconfigure_eq, hm₀.reconfigure_eq]
  simp only [replaced, Compositor.failingStage?_free ha, Compositor.failingStage?_free ha₀]
  cases p.hasZeroSide with
  | true => exact ⟨_, _, _, _, _, rfl, rfl, rfl, rfl, .nothing, hnews⟩
  | false =>
    -- from here on each new resource is named after the one that the other compositor adds
    have hnew (n : Nat) : Naming.next ρ c c₀ (c₀.nextId + n) = c.nextId + n := by
      rw [Naming.next, if_neg (by omega)]
      omega
    have hboth : VirtualOutput.Twin (Naming.next ρ c c₀) (c.nextOutput p) (c₀.nextOutput p) :=
      ⟨(hnew 1).symm, (hnew 0).symm, rfl, rfl⟩
    have hnewer := hnews.hosting p fun n => by
      rw [cleared_nextId, cleared_nextId]
      exact hnew n
    exact ⟨_, _, _, _, _, rfl, rfl, rfl, rfl,
      .output hboth rfl (hm.hosting p) (hm₀.hosting p) (.start exact), hnewer⟩

end Twin

end OutputManager

/-- Whether a wait was served by a frame, and by one that is not too large to be locked. -/
def Answer.isServed : Answer → Bool
  | .waited (.ok false) | .consumed (.error (.lockFailed .badValue)) => false
  | _ => true

/-- A compositor without injected failures. -/
structure Compositor.IsCalm (c : Compositor) : Prop where
  hosts : ∃ feeds, c.Hosts feeds
  unarmed (point : FailPoint) : c.armed point = none

theorem Compositor.IsCalm.probe_eq (hc : c.IsCalm) (hc₀ : c₀.IsCalm)
    (hpanels : c.panels = c₀.panels) (id : Int32) :
    ∃ r, c.probe id = (r, c) ∧ c₀.probe id = (r, c₀) := by
  simp only [Compositor.probe, Compositor.panel, Compositor.guarded, hc.unarmed .panel,
    hc₀.unarmed .panel, hpanels]
  cases c₀.panels.find? id with
  | some panel => exact ⟨_, rfl, rfl⟩
  | none =>
    refine ⟨.error (.displayNotFound id), ?_, ?_⟩
    · exact if_neg (by decide)
    · exact if_neg (by decide)

namespace Controller

/-- The same controller with another manager. -/
def withManager (k : Controller) (m : OutputManager) : Controller := { k with manager := m }

theorem setDesired_withManager (k : Controller) (m : OutputManager) (info : DisplayInfo) :
    (k.withManager m).setDesired info =
      ((k.setDesired info).1, (k.setDesired info).2.withManager m) := by
  obtain ⟨_, _, _, _, _, state, _⟩ := k
  cases state <;> rfl

theorem setReal_withManager (k : Controller) (m : OutputManager) (info : DisplayInfo) :
    (k.withManager m).setReal info = ((k.setReal info).1, (k.setReal info).2.withManager m) := by
  obtain ⟨_, _, _, _, _, state, _⟩ := k
  cases state <;> rfl

/-- A controller, and a manager that could stand in it in another compositor. -/
structure Twin (exact : Bool) (ρ : Nat → Nat) (c c₀ : Compositor) (m : OutputManager)
    (k : Controller) : Prop where
  managers : OutputManager.Twin exact k.framePending ρ c c₀ m k.manager
  running : k.state.isRunning = k.manager.isRunning
  pending : k.framePending = decide (k.state = .frameReady)
  free : k.state = .frameReady → k.manager.isHolding = false

/-- The same outcome for both, in their compositors. -/
structure Echo {α : Type} (exact : Bool) (ρ σ : Nat → Nat) (c c₀ : Compositor)
    (r r₀ : α × Controller × Compositor) : Prop where
  answer : r.1 = r₀.1
  like : r.2.1 = r₀.2.1.withManager r.2.1.manager
  twin : Twin exact σ r.2.2 r₀.2.2 r.2.1.manager r₀.2.1
  news : News ρ σ c c₀ r.2.2 r₀.2.2

namespace Twin

variable {m : OutputManager} {k : Controller}

theorem settings (h : Twin exact ρ c c₀ m k) (desired real : Option DisplayInfo) :
    Twin exact ρ c c₀ m { k with desired, real }.leaveIdle := by
  obtain ⟨hm, hr, hp, hf⟩ := h
  unfold leaveIdle
  by_cases hs : k.state = .idle
  · simp only [hs] at hp hr ⊢
    exact ⟨hm, hr, hp, nofun⟩
  · simp only [hs, if_false]
    exact ⟨hm, hr, hp, hf⟩

theorem setDesired (h : Twin exact ρ c c₀ m k) (hnames : Naming ρ c c₀) (info : DisplayInfo) :
    Echo exact ρ ρ c c₀ ((Operation.setDesired info).perform (k.withManager m) c)
      ((Operation.setDesired info).perform k c₀) := by
  have htwin : Twin exact ρ c c₀ m (k.setDesired info).2 := by
    unfold Controller.setDesired
    split
    next => exact h
    next => exact h.settings (some info) k.real
  simp only [Operation.perform, k.setDesired_withManager m info]
  exact ⟨rfl, rfl, htwin, hnames.quiet (.refl c) (.refl c₀)⟩

theorem setReal (h : Twin exact ρ c c₀ m k) (hnames : Naming ρ c c₀) (info : DisplayInfo) :
    Echo exact ρ ρ c c₀ ((Operation.setReal info).perform (k.withManager m) c)
      ((Operation.setReal info).perform k c₀) := by
  have htwin : Twin exact ρ c c₀ m (k.setReal info).2 := by
    unfold Controller.setReal
    split
    next => exact h
    next => exact h.settings k.desired (some info)
  simp only [Operation.perform, k.setReal_withManager m info]
  exact ⟨rfl, rfl, htwin, hnames.quiet (.refl c) (.refl c₀)⟩

theorem apply (h : Twin exact ρ c c₀ m k) (hnames : Naming ρ c c₀) (hc : c.IsCalm)
    (hc₀ : c₀.IsCalm) : ∃ σ, Echo exact ρ σ c c₀ (Operation.apply.perform (k.withManager m) c)
      (Operation.apply.perform k c₀) := by
  have hs : (k.withManager m).state = k.state := rfl
  have hm : (k.withManager m).manager = m := rfl
  have hparams : (k.withManager m).params = k.params := rfl
  simp only [Operation.perform, Controller.apply, hs, hm, hparams]
  by_cases hreleased : k.state = .released
  · rw [if_pos hreleased, if_pos hreleased]
    exact ⟨ρ, rfl, rfl, h, hnames.quiet (.refl c) (.refl c₀)⟩
  · obtain ⟨r, m', d, m₀', d₀, hr, hr₀, hrunning, hfree, htwin, hnews⟩ :=
      h.managers.reconfigure hc.hosts hc₀.hosts hnames hc.unarmed hc₀.unarmed k.params
    rw [if_neg hreleased, if_neg hreleased, hr, hr₀]
    refine ⟨Naming.next ρ c c₀, ?_⟩
    cases r with
    | error => exact ⟨rfl, rfl, ⟨htwin, hrunning.symm, rfl, by simp⟩, hnews⟩
    | ok => exact ⟨rfl, rfl, ⟨htwin, hrunning.symm, rfl, by simp⟩, hnews⟩

theorem release (h : Twin exact ρ c c₀ m k) (hnames : Naming ρ c c₀) (hc : c.IsCalm)
    (hc₀ : c₀.IsCalm) : Echo exact ρ ρ c c₀ (Operation.release.perform (k.withManager m) c)
      (Operation.release.perform k c₀) := by
  have hs : (k.withManager m).state = k.state := rfl
  have hm : (k.withManager m).manager = m := rfl
  simp only [Operation.perform, Controller.release, hs, hm]
  by_cases hreleased : k.state = .released
  · rw [if_pos hreleased, if_pos hreleased]
    exact ⟨rfl, rfl, h, hnames.quiet (.refl c) (.refl c₀)⟩
  · obtain ⟨d, d₀, hd, hd₀, hnews⟩ := h.managers.destroy hc.hosts hc₀.hosts hnames
    rw [if_neg hreleased, if_neg hreleased, hd, hd₀]
    exact ⟨rfl, rfl, ⟨.nothing, rfl, rfl, by simp⟩, hnews⟩

theorem beginWait (h : Twin exact ρ c c₀ m k) (operation : CaptureOperation) :
    (∃ r : Except CaptureError (Option WaiterId), (∀ waiter, r ≠ .ok (some waiter)) ∧
      (k.withManager m).beginWait operation c = (r, k.withManager m, c) ∧
        k.beginWait operation c₀ = (r, k, c₀)) ∨
    ∃ o o₀ k' d d₀,
      (k.withManager m).beginWait operation c = (.ok (some o.waiter), k'.withManager ⟨some o⟩, d) ∧
      k.beginWait operation c₀ = (.ok (some o₀.waiter), k', d₀) ∧
      k'.manager = ⟨some o₀⟩ ∧ o₀.holder.isHolding = false ∧ k'.framePending = false ∧
      c.Quiet d ∧ c₀.Quiet d₀ ∧ Twin exact ρ d d₀ ⟨some o⟩ k' := by
  have hs : (k.withManager m).state = k.state := rfl
  have hm : (k.withManager m).manager = m := rfl
  have hpending : (k.withManager m).framePending = k.framePending := rfl
  simp only [Controller.beginWait, hs, hm, hpending]
  obtain ⟨hmanagers, hrunning, hp, _⟩ := h
  cases hr : k.state.isRunning with
  | false => exact .inl ⟨.error (k.invalid operation), by simp, rfl, rfl⟩
  | true =>
    cases hpend : k.framePending with
    | true => exact .inl ⟨.ok none, by simp, rfl, rfl⟩
    | false =>
      right
      rw [hr] at hrunning
      rw [hpend] at hmanagers
      generalize hm₀ : k.manager = m₀ at hmanagers hrunning
      cases hmanagers with
      | nothing => cases hrunning
      | @output o o₀ f f₀ ho hh hf hf₀ hkin =>
        obtain ⟨b, d, d₀, hu, hu₀, htwin, hquiet, hquiet₀⟩ :=
          OutputManager.Twin.unlock (.output ho hh hf hf₀ hkin)
        simp only [hu, hu₀, Bool.not_true, Bool.false_eq_true, if_false]
        exact ⟨{ o with holder := .empty }, { o₀ with holder := .empty }, _, d, d₀, rfl, rfl, rfl,
          rfl, rfl, hquiet, hquiet₀, htwin, rfl, rfl, by simp⟩

theorem noteFrame {o o₀ : VirtualOutput} (hm : k.manager = ⟨some o₀⟩)
    (hfree : o₀.holder.isHolding = false)
    (h : OutputManager.Twin exact true ρ c c₀ ⟨some o⟩ ⟨some o₀⟩) :
    Twin exact ρ c c₀ ⟨some o⟩ k.noteFrame := by
  rw [← hm] at h
  refine ⟨h, ?_, rfl, fun _ => ?_⟩
  · show true = k.manager.isRunning
    rw [hm]
    rfl
  · show k.manager.isHolding = false
    rw [hm]
    exact hfree

theorem waitAs (h : Twin exact ρ c c₀ m k) (hnames : Naming ρ c c₀) (operation : CaptureOperation)
    (arrives : Bool)
    (hserved : exact = false → ((k.withManager m).waitAs operation arrives c).1 ≠ .ok false ∧
      (k.waitAs operation arrives c₀).1 ≠ .ok false) :
    Echo exact ρ ρ c c₀ ((k.withManager m).waitAs operation arrives c)
      (k.waitAs operation arrives c₀) := by
  unfold Controller.waitAs at hserved ⊢
  rcases h.beginWait operation with ⟨r, hr, hb, hb₀⟩ |
    ⟨o, o₀, k', d, d₀, hb, hb₀, hm, hfree, hp, hquiet, hquiet₀, htwin⟩
  · rw [hb, hb₀]
    have hnews := hnames.quiet (.refl c) (.refl c₀)
    obtain error | _ | waiter := r
    · exact ⟨rfl, rfl, h, hnews⟩
    · exact ⟨rfl, rfl, h, hnews⟩
    · exact absurd rfl (hr waiter)
  · have hmanagers := htwin.managers
    rw [hm, hp] at hmanagers
    obtain ⟨b, b₀, e, e₀, hw, hw₀, hwait, hwait₀, hsame⟩ := hmanagers.awaitNotice arrives
    have hnews := hnames.quiet (hquiet.trans hwait) (hquiet₀.trans hwait₀)
    simp only [hb, hb₀, hw, hw₀] at hserved ⊢
    have hboth : exact = false → b = true ∧ b₀ = true := by
      intro he
      obtain ⟨h1, h2⟩ := hserved he
      cases b <;> cases b₀ <;> simp_all
    obtain ⟨rfl, hafter⟩ := hsame hboth
    cases b with
    | true => exact ⟨rfl, rfl, noteFrame hm hfree hafter, hnews⟩
    | false =>
      refine ⟨rfl, rfl, ⟨?_, htwin.running, htwin.pending, htwin.free⟩, hnews⟩
      show OutputManager.Twin exact k'.framePending ρ e e₀ ⟨some o⟩ k'.manager
      rw [hm, hp]
      exact hafter

theorem consume (h : Twin exact ρ c c₀ m k) (hnames : Naming ρ c c₀) (hc : c.IsCalm)
    (hc₀ : c₀.IsCalm)
    (hserved : exact = false →
      (Answer.consumed ((k.withManager m).consume c).1).isServed = true ∧
        (Answer.consumed (k.consume c₀).1).isServed = true) :
    Echo exact ρ ρ c c₀ ((k.withManager m).consume c) (k.consume c₀) := by
  have hs : (k.withManager m).state = k.state := rfl
  have hm : (k.withManager m).manager = m := rfl
  simp only [Controller.consume, hs, hm] at hserved ⊢
  by_cases hready : k.state = .frameReady
  · obtain ⟨hmanagers, hrunning, hp, hfree⟩ := h
    have hpend : k.framePending = true := hp.trans (decide_eq_true hready)
    have hholding := hfree hready
    rw [hready] at hrunning
    rw [hpend] at hmanagers
    simp only [hready, ne_eq, not_true_eq_false, if_false] at hserved ⊢
    generalize k.manager = m₀ at hmanagers hrunning hholding hserved ⊢
    cases hmanagers with
    | nothing => cases hrunning
    | output ho hh hf hf₀ hkin =>
      obtain ⟨r, r₀, d, d₀, hlock, hlock₀, hquiet, hquiet₀, hsame⟩ :=
        OutputManager.Twin.lockNext (.output ho hh hf hf₀ hkin) hholding (hc.unarmed .lock)
          (hc₀.unarmed .lock)
      have hnews := hnames.quiet hquiet hquiet₀
      simp only [hlock, hlock₀] at hserved ⊢
      have hboth : exact = false →
          r ≠ .error (.lockFailed .badValue) ∧ r₀ ≠ .error (.lockFailed .badValue) := by
        intro he
        obtain ⟨h1, h2⟩ := hserved he
        constructor
        · rintro rfl
          cases h1
        · rintro rfl
          cases h2
      obtain ⟨rfl, hafter, hframe⟩ := hsame hboth
      cases r with
      | error error =>
        refine ⟨rfl, rfl, ⟨?_, rfl, hpend, fun _ => rfl⟩, hnews⟩
        show OutputManager.Twin exact k.framePending ρ d d₀ _ _
        rw [hpend]
        exact hafter
      | ok buffer =>
        simp only [hframe]
        split
        next => exact ⟨rfl, rfl, ⟨hafter, rfl, rfl, by simp⟩, hnews⟩
        next => exact ⟨rfl, rfl, ⟨hafter, rfl, rfl, by simp⟩, hnews⟩
  · rw [if_pos hready, if_pos hready]
    exact ⟨rfl, rfl, h, hnames.quiet (.refl c) (.refl c₀)⟩

theorem setRealProbed (h : Twin exact ρ c c₀ m k) (hnames : Naming ρ c c₀) (hc : c.IsCalm)
    (hc₀ : c₀.IsCalm) (hpanels : c.panels = c₀.panels) :
    Echo exact ρ ρ c c₀ ((k.withManager m).setRealProbed c) (k.setRealProbed c₀) := by
  have hid : (k.withManager m).displayId = k.displayId := rfl
  obtain ⟨r, hr, hr₀⟩ := hc.probe_eq hc₀ hpanels k.displayId
  have hnews := hnames.quiet (.refl c) (.refl c₀)
  simp only [Controller.setRealProbed, hid, hr, hr₀]
  cases r with
  | error => exact ⟨rfl, rfl, h, hnews⟩
  | ok info =>
    have hset := (h.setReal hnames info).twin
    simp only [Operation.perform, k.setReal_withManager m info] at hset ⊢
    exact ⟨rfl, rfl, hset, hnews⟩

theorem perform (h : Twin exact ρ c c₀ m k) (hnames : Naming ρ c c₀) (hc : c.IsCalm)
    (hc₀ : c₀.IsCalm) (op : Operation)
    (hserved : exact = false → (op.perform (k.withManager m) c).1.isServed = true ∧
      (op.perform k c₀).1.isServed = true) :
    ∃ σ, Echo exact ρ σ c c₀ (op.perform (k.withManager m) c) (op.perform k c₀) := by
  have hwaits {r r₀ : Except CaptureError Bool}
      (hr : exact = false →
        (Answer.waited r).isServed = true ∧ (Answer.waited r₀).isServed = true) :
      exact = false → r ≠ .ok false ∧ r₀ ≠ .ok false := by
    intro he
    obtain ⟨h1, h2⟩ := hr he
    constructor
    · rintro rfl
      cases h1
    · rintro rfl
      cases h2
  cases op with
  | setDesired info => exact ⟨ρ, h.setDesired hnames info⟩
  | setReal info => exact ⟨ρ, h.setReal hnames info⟩
  | apply => exact h.apply hnames hc hc₀
  | wait =>
    obtain ⟨ha, hlike, htwin, hnews⟩ := h.waitAs hnames .wait true (hwaits hserved)
    exact ⟨ρ, congrArg Answer.waited ha, hlike, htwin, hnews⟩
  | waitTimeout arrives =>
    obtain ⟨ha, hlike, htwin, hnews⟩ := h.waitAs hnames .waitTimeout arrives (hwaits hserved)
    exact ⟨ρ, congrArg Answer.waited ha, hlike, htwin, hnews⟩
  | consume =>
    obtain ⟨ha, hlike, htwin, hnews⟩ := h.consume hnames hc hc₀ hserved
    exact ⟨ρ, congrArg Answer.consumed ha, hlike, htwin, hnews⟩
  | release => exact ⟨ρ, h.release hnames hc hc₀⟩

end Twin

end Controller

end ScreenCapture
