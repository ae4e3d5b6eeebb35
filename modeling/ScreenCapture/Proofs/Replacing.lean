import ScreenCapture.Proofs.Managing

namespace ScreenCapture

/-- What a manager and its compositor go through. -/
inductive OutputAction
  | create (p : OutputParams)
  | reconfigure (p : OutputParams)
  | destroy
  | lock
  | unlock
  | await (arrives : Bool)
  | happen (x : Happening)

namespace OutputAction

/-- Where nothing runs, nothing is locked or waited for. -/
def step (s : OutputManager × Compositor) : OutputAction → OutputManager × Compositor
  | create p => (s.1.create s.2 p).2
  | reconfigure p => (s.1.reconfigure s.2 p).2
  | destroy => s.1.destroy s.2
  | lock =>
    match s.1.lockNext s.2 with
    | none => s
    | some (_, after) => after
  | unlock =>
    match s.1.unlock s.2 with
    | none => s
    | some (_, after) => after
  | await arrives =>
    match s.1.output with
    | none => s
    | some o => (s.1, (s.2.awaitNotice o.waiter arrives).2)
  | happen x => (s.1, x.apply s.2)

def run (actions : List OutputAction) (s : OutputManager × Compositor) :
    OutputManager × Compositor :=
  actions.foldl step s

variable {m : OutputManager} {c : Compositor} {e : Option (Site × Feed)}

theorem runs_step (h : m.Runs c e) (a : OutputAction) :
    ∃ e', (a.step (m, c)).1.Runs (a.step (m, c)).2 e' := by
  cases a with
  | create p =>
    obtain ⟨_, _, _, e', he, _, hd⟩ := h.replaced p
    rw [step, h.create_eq, he]
    exact ⟨e', hd⟩
  | reconfigure p =>
    obtain ⟨_, _, _, e', he, _, hd⟩ := h.replaced p
    rw [step, h.reconfigure_eq, he]
    exact ⟨e', hd⟩
  | destroy =>
    rw [step, h.destroy_eq]
    exact ⟨none, h.cleared⟩
  | lock =>
    cases e with
    | none =>
      cases h with
      | nothing hc => exact ⟨none, .nothing hc⟩
    | some x =>
      obtain ⟨_, _, _, g, he, _, hd, _⟩ := h.lockNext
      simp only [step, he]
      exact ⟨some (x.1, g), hd⟩
  | unlock =>
    cases e with
    | none =>
      cases h with
      | nothing hc => exact ⟨none, .nothing hc⟩
    | some x =>
      obtain ⟨_, _, _, he, hd⟩ := h.unlock
      simp only [step, he]
      exact ⟨_, hd⟩
  | await arrives =>
    cases h with
    | nothing hc => exact ⟨none, .nothing hc⟩
    | @output o c f hold hc =>
      obtain ⟨_, d, g, he, _, hd⟩ :=
        (OutputManager.Runs.output hold hc).awaitNotice arrives
      rw [VirtualOutput.site_waiter] at he
      simp only [step, he]
      exact ⟨_, hd⟩
  | happen x =>
    obtain ⟨_, hd⟩ := h.happen x
    exact ⟨_, hd⟩

theorem runs_run (actions : List OutputAction) {s : OutputManager × Compositor}
    {e : Option (Site × Feed)} (h : s.1.Runs s.2 e) :
    ∃ e', (run actions s).1.Runs (run actions s).2 e' := by
  induction actions generalizing s e with
  | nil => exact ⟨e, h⟩
  | cons a actions ih =>
    obtain ⟨_, h'⟩ := runs_step h a
    exact ih h'

end OutputAction

theorem Compositor.Hosts.liveQueues {c : Compositor} {feeds : Feeds} (h : c.Hosts feeds) :
    c.liveQueues = feeds.length := by
  rw [Compositor.liveQueues, Registry.size, h.channels, List.length_map]

theorem Compositor.Hosts.liveDisplays {c : Compositor} {feeds : Feeds} (h : c.Hosts feeds) :
    c.liveDisplays = feeds.length := by
  rw [Compositor.liveDisplays, Registry.size, h.displays, List.length_map]

/-- The events of tearing down what a manager runs. -/
def OutputManager.farewell (m : OutputManager) : List Event :=
  match m.output with
  | none => []
  | some o => [.displayDestroyed o.display, .queueReleased o.queue]

/-- What is seen of a set-up from outside. -/
structure SetupReport where
  result : Except CaptureError Unit
  /-- The armed failure that is used up. -/
  spent : Option FailPoint
  /-- How many numbers of queues and displays are used up. -/
  ids : Nat
  events : List Event
  output : Option VirtualOutput

/-- The report of the next set-up. A side of zero is found before anything is called. -/
def Compositor.setupReport (c : Compositor) (p : OutputParams) : SetupReport :=
  if p.hasZeroSide then
    { result := .error (.setupFailed .geometry Status.badValue.name), spent := none, ids := 0
      events := [], output := none }
  else
    match c.failingStage? with
    | some (stage, status) =>
      { result := .error (stage.error status.name), spent := some stage.point, ids := stage.ids
        events := stage.events c.nextId, output := none }
    | none =>
      { result := .ok (), spent := none, ids := 2
        events := [.queueCreated c.nextId, .displayCreated (c.nextId + 1),
          .transactionApplied (c.nextId + 1)]
        output := some (c.nextOutput p) }

namespace OutputManager

theorem cleared_armed (m : OutputManager) (c : Compositor) : (m.cleared c).armed = c.armed := by
  unfold cleared
  split <;> rfl

theorem cleared_nextId (m : OutputManager) (c : Compositor) : (m.cleared c).nextId = c.nextId := by
  unfold cleared
  split <;> rfl

theorem cleared_events (m : OutputManager) (c : Compositor) :
    (m.cleared c).events = c.events ++ m.farewell := by
  cases hm : m.output with
  | none => simp only [cleared, farewell, hm, List.append_nil]
  | some o =>
    simp only [cleared, farewell, hm]
    rfl

/-- A compositor that hosts nothing, or just the output that was set up. -/
theorem Runs.projection {c : Compositor} (h : Runs .empty c none) (p : OutputParams)
    (token : DisplayToken) :
    c.projection token = none ∧ (c.hosting p).projection token =
      if c.nextId + 1 = token then some p.projection else none := by
  have hn : c.displays.find? token = none := h.hosts.displays.find?_none nofun
  refine ⟨by simp [Compositor.projection, hn], ?_⟩
  simp only [Compositor.projection, Compositor.hosting]
  by_cases ht : c.nextId + 1 = token
  · subst ht
    simp [Registry.find?_insert_self, Site.shown, Compositor.nextSite]
  · simp [Registry.find?_insert_ne _ _ (Ne.symm ht), hn, ht]

/-- Replacing an output is a transaction, whatever the manager went through before: the running
output is torn down first, and then all of the new one is there or nothing. -/
theorem reconfigure_transaction (panels : Registry Int32 Panel) (interval : Nat)
    (actions : List OutputAction) (p : OutputParams) :
    let s := OutputAction.run actions (.empty, .ofPanels panels interval)
    let after := s.1.reconfigure s.2 p
    let report := s.2.setupReport p
    after.1 = report.result ∧ after.2.1.output = report.output ∧
      after.2.2.Hosts (report.output.toList.map fun o => (o.site, .fresh)) ∧
      (∀ point, after.2.2.armed point =
        if report.spent = some point then none else s.2.armed point) ∧
      after.2.2.nextId = s.2.nextId + report.ids ∧
      after.2.2.events = s.2.events ++ s.1.farewell ++ report.events ∧
      after.2.2.liveQueues = report.output.isSome.toNat ∧
      after.2.2.liveDisplays = report.output.isSome.toNat ∧
      ∀ token, after.2.2.projection token =
        if report.output.any (·.display = token) then some p.projection else none := by
  intro s after report
  obtain ⟨e, h⟩ := OutputAction.runs_run actions (s := (.empty, .ofPanels panels interval))
    (.nothing (Compositor.ofPanels_hosts panels interval))
  -- the set-up starts from a compositor that hosts nothing
  have hnone : Runs .empty (s.1.cleared s.2) none := Runs.cleared h
  have hafter : after = s.1.replaced s.2 p := Runs.reconfigure_eq h p
  have harmed := cleared_armed s.1 s.2
  have hid := cleared_nextId s.1 s.2
  have hevents := cleared_events s.1 s.2
  rw [hafter]
  unfold replaced
  simp only [report, Compositor.setupReport]
  cases p.hasZeroSide with
  | true =>
    have hc := hnone.hosts
    refine ⟨rfl, rfl, hc, fun point => congrFun harmed point, hid, ?_, hc.liveQueues,
      hc.liveDisplays, fun token => (hnone.projection p token).1⟩
    exact hevents.trans (List.append_nil _).symm
  | false =>
    cases hf : s.2.failingStage? with
    | some failing =>
      obtain ⟨stage, status⟩ := failing
      have hc := hnone.hosts.failedAt stage
      refine ⟨rfl, rfl, hc, ?_, ?_, ?_, hc.liveQueues, hc.liveDisplays,
        fun token => (hnone.projection p token).1⟩
      · intro point
        simp [Compositor.failedAt, Compositor.disarm, harmed, eq_comm]
      · exact congrArg (· + stage.ids) hid
      · simp [Compositor.failedAt, hevents, hid]
    | none =>
      have hc := hnone.hosts.hosting p
      have hsite : (s.1.cleared s.2).nextSite p = (s.2.nextOutput p).site :=
        congrArg (·.site) (Runs.cleared_nextOutput s.1 s.2 p)
      rw [hsite] at hc
      refine ⟨rfl, rfl, hc, fun point => congrFun harmed point, congrArg (· + 2) hid, ?_,
        hc.liveQueues, hc.liveDisplays, ?_⟩
      · simp [Compositor.hosting, hevents, hid]
      · intro token
        have ht := (hnone.projection p token).2
        rw [hid] at ht
        simpa [Compositor.nextOutput] using ht

end OutputManager

end ScreenCapture
