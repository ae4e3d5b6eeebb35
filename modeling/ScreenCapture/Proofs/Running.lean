import ScreenCapture.Proofs.Looping
import ScreenCapture.Proofs.Replacing
import ScreenCapture.Proofs.Settings

namespace ScreenCapture.CommandLine

variable {config : CaptureConfig}

theorem compositorFor_hosts (config : CaptureConfig) : (compositorFor config).Hosts [] :=
  (Compositor.ofPanels_hosts _ _).startPool

theorem compositorFor_armed (config : CaptureConfig) (point : FailPoint) :
    (compositorFor config).armed point = none := rfl

theorem probe_found {panel : Panel}
    (h : Compositor.standardPanels.find? config.displayId = some panel) :
    (compositorFor config).probe config.displayId =
      (.ok (.ofPanel panel), compositorFor config) := by
  have hfound : (compositorFor config).panels.find? config.displayId = some panel := h
  simp only [Compositor.probe, Compositor.panel, Compositor.guarded, compositorFor_armed, hfound]

theorem probe_absent (h : Compositor.standardPanels.find? config.displayId = none) :
    (compositorFor config).probe config.displayId =
      (.error (.displayNotFound config.displayId), compositorFor config) := by
  have habsent : (compositorFor config).panels.find? config.displayId = none := h
  simp only [Compositor.probe, Compositor.panel, Compositor.guarded, compositorFor_armed, habsent]
  rfl

theorem standardPanels_eq {id : Int32} {panel : Panel}
    (h : Compositor.standardPanels.find? id = some panel) : panel = .standard := by
  have hm := Registry.mem_of_lookup h
  cases List.mem_singleton.mp hm
  rfl

/-- A capture whose geometry is set. -/
def prepared (id : Int32) (p : Mirroring) : Controller :=
  { Controller.new id with
    desired := some p.desiredInfo, real := some p.realInfo, state := .configured }

theorem configured_eq (id : Int32) (p : Mirroring) : configured id p = .ok (prepared id p) := rfl

theorem prepared_params (id : Int32) (p : Mirroring) : (prepared id p).params = p.params := rfl

/-- A capture whose output runs. -/
def begun (id : Int32) (p : Mirroring) (c : Compositor) : Controller :=
  { prepared id p with
    manager := ⟨some (c.nextOutput p.params)⟩, state := .awaitingFrame, stats := ⟨0, 0, 1⟩ }

theorem prepared_apply {c : Compositor} (hc : c.Hosts []) (hfree : c.failingStage? = none)
    (id : Int32) {p : Mirroring} (hp : p.Proper) :
    (prepared id p).apply c = (.ok (), begun id p c, c.hosting p.params) := by
  have hr : OutputManager.empty.reconfigure c p.params =
      (.ok (), ⟨some (c.nextOutput p.params)⟩, c.hosting p.params) := by
    rw [(OutputManager.Runs.nothing hc).reconfigure_eq, OutputManager.replaced, hfree,
      show p.params.hasZeroSide = false from hp]
    rfl
  have hne : (prepared id p).state ≠ .released := by simp [prepared]
  have hm : (prepared id p).manager = .empty := rfl
  rw [Controller.apply, if_neg hne, prepared_params, hm, hr]
  rfl

theorem begun_tracks {c : Compositor} (hc : c.Hosts []) (id : Int32) (p : Mirroring) :
    (begun id p c).Tracks (c.hosting p.params) (some (c.nextSite p.params, .fresh)) :=
  ⟨.output (o := c.nextOutput p.params) rfl (hc.hosting p.params), rfl, rfl, nofun⟩

theorem begun_rests {c : Compositor} (hc : c.Hosts []) (harmed : c.armed .lock = none)
    (id : Int32) (p : Mirroring) :
    Rests (c.nextSite p.params) (begun id p c, c.hosting p.params) 0 where
  feed := ⟨.fresh, begun_tracks hc id p, Feed.fresh_coherent, rfl⟩
  pending := rfl
  armed := harmed

theorem setUp_absent (h : Compositor.standardPanels.find? config.displayId = none)
    (log : List String) :
    setUp config log = .error (.failure log (some "probing display")
      (.displayNotFound config.displayId), compositorFor config) := by
  simp only [setUp, probe_absent h]

theorem setUp_found {panel : Panel}
    (h : Compositor.standardPanels.find? config.displayId = some panel)
    (hp : (config.mirroringFor (.ofPanel panel)).Proper) (log : List String) :
    let p := config.mirroringFor (.ofPanel panel)
    let c := compositorFor config
    setUp config log =
      .ok (log ++ [foundText config.displayId (.ofPanel panel),
        "Starting capture projection=" ++ p.text], begun config.displayId p c,
          c.hosting p.params) := by
  intro p c
  have hfree : c.failingStage? = none := rfl
  have happly := prepared_apply (compositorFor_hosts config) hfree config.displayId hp
  simp only [setUp, probe_found h, configured_eq, happly]
  rfl

/-- A run that captured all the frames it was asked for, and gave everything back. -/
structure Fulfilled (config : CaptureConfig) (p : OutputParams) (arrives : Nat → Bool) (late : Nat)
    (log : List String) (first last : Controller × Compositor) (course : List Turn)
    (after : Outcome × Option Compositor) : Prop where
  leads : Course config.waitTimeout arrives 0 first course last
  quiet : ∀ done ∈ course, done = .late ∨ ∃ frame, done = .captured frame
  finished : captureFrames config.waitTimeout config.frameLimit.toNat arrives
    (config.frameLimit.toNat + late) 0 .start first.1 first.2 =
      (.finished, course.foldl Tally.note .start, last)
  count : (framesOf course).length = config.frameLimit.toNat
  delivers : ∀ i (h : i < (framesOf course).length), (framesOf course)[i].Delivers p i
  consumed : (course.foldl Tally.note .start).consumed = config.frameLimit.toNat
  bytes : (course.foldl Tally.note .start).bytes = config.frameLimit.toNat * p.frameSize
  stats : last.1.stats = ⟨config.frameLimit.toNat, 0, 1⟩
  released : (last.1.release last.2).1.state = .released
  compositor : after.2 = some (last.1.release last.2).2
  liveQueues : (last.1.release last.2).2.liveQueues = 0
  liveDisplays : (last.1.release last.2).2.liveDisplays = 0
  outcome : after.1 = .success (log ++
    ((framesOf course).head?.map fun frame =>
      "First frame: " ++ frame.text ++ " header_bytes=25").toList ++
    [finishedText ⟨config.frameLimit.toNat, 0, 1⟩])

theorem firstFrameText_eq (frame : Frame) :
    firstFrameText frame = "First frame: " ++ frame.text ++ " header_bytes=25" := by
  simp only [firstFrameText, FrameHeader.length_encode]
  rfl

theorem bytesOf_capture (site : Site) (size : UInt32) (start n : Nat) :
    bytesOf ((List.range' start n).map fun i => site.capture i size) = n * size.toNat := by
  induction n generalizing start with
  | zero => rw [Nat.zero_mul]; rfl
  | succ n ih =>
    rw [List.range'_succ, List.map_cons, bytesOf, ih, Nat.succ_mul, Nat.add_comm]
    rfl

/-- What the loop made of a capture, and what is printed about it. -/
theorem Completes.fulfilled {site : Site} {arrives : Nat → Bool} {late : Nat}
    {log opening : List String} {first : Controller × Compositor} {course : List Turn}
    (h : Completes site config.waitTimeout arrives config.frameLimit.toNat 0 .start first course
      (captureFrames config.waitTimeout config.frameLimit.toNat arrives
        (config.frameLimit.toNat + late) 0 .start first.1 first.2))
    (hfits : site.params.Fits) (hz : site.params.hasZeroSide = false)
    (hstats : first.1.stats = ⟨0, 0, 1⟩) (hsetup : setUp config log = .ok (opening, first)) :
    ∃ last, Fulfilled config site.params arrives late opening first last course
      ((capture config log arrives (config.frameLimit.toNat + late)).1,
        some (capture config log arrives (config.frameLimit.toNat + late)).2) := by
  obtain ⟨k, c⟩ := first
  generalize hloop : captureFrames config.waitTimeout config.frameLimit.toNat arrives
    (config.frameLimit.toNat + late) 0 .start k c = r at h
  obtain ⟨ending, tally, k', d⟩ := r
  obtain ⟨hleads, rfl, rfl, hrests, hcounted, hframes, hquiet⟩ := h
  have hsize : (UInt32.ofNat site.params.frameSize).toNat = site.params.frameSize := by
    rw [UInt32.toNat_ofNat']
    exact Nat.mod_eq_of_lt hfits.size
  obtain ⟨hconsumed, hbytes, hfirst⟩ := Tally.foldl_note .start course
  have hlength : (framesOf course).length = config.frameLimit.toNat := by
    rw [hframes, List.length_map, List.length_range']
    rfl
  have hlast : k'.stats = ⟨config.frameLimit.toNat, 0, 1⟩ := by
    rw [hcounted, hstats]
    simp [Tally.start]
  obtain ⟨f, htracks, _⟩ := hrests.feed
  obtain ⟨k'', d', hrelease, hreleased⟩ := htracks.release
  have hempty : d'.Hosts [] := hreleased.tracks.runs.hosts
  have hcapture : capture config log arrives (config.frameLimit.toNat + late) =
      (.success (opening ++ ((course.foldl Tally.note .start).first.map firstFrameText).toList ++
        [finishedText k''.stats]), d') := by
    simp only [capture, hsetup, hloop, hrelease]
  refine ⟨(k', d), ?_⟩
  rw [hcapture]
  exact {
    leads := hleads
    quiet := hquiet
    finished := hloop
    count := hlength
    delivers := by
      intro i hi
      have hi' : i < config.frameLimit.toNat := hlength ▸ hi
      simp only [hframes, List.getElem_map, List.getElem_range', Tally.start]
      simpa using Site.capture_delivers hfits hz i
    consumed := by rw [hconsumed, hlength]; exact Nat.zero_add _
    bytes := by
      rw [hbytes, hframes, bytesOf_capture, hsize]
      simp [Tally.start]
    stats := hlast
    released := Controller.release_state k' d
    compositor := by rw [hrelease]
    liveQueues := by rw [hrelease]; exact hempty.liveQueues
    liveDisplays := by rw [hrelease]; exact hempty.liveDisplays
    outcome := by
      have hstats' : k''.stats = k'.stats := hreleased.stats
      rw [hfirst, hstats', hlast]
      simp only [Tally.start, Option.none_or, funext firstFrameText_eq] }

/-- The settings that the arguments change: those of the file, or the standard ones. -/
def StartsFrom (o : Overrides) (read : String → Except ReadFailure String)
    (base : CaptureConfig) : Prop :=
  match o.configPath with
  | none => base = .standard
  | some path => ∃ text, read path = .ok text ∧ CaptureConfig.ofJson text = .ok base

theorem StartsFrom.proper {o : Overrides} {read : String → Except ReadFailure String}
    {base : CaptureConfig} (h : StartsFrom o read base) : base.Proper := by
  unfold StartsFrom at h
  split at h
  next =>
    subst h
    exact CaptureConfig.standard_proper
  next =>
    obtain ⟨_, _, hjson⟩ := h
    exact CaptureConfig.proper_of_ofJson hjson

/-- What is logged before the display is looked for. -/
def openingOf (o : Overrides) : List String :=
  if o.configPath.isNone then ["No config given, using defaults"] else []

theorem StartsFrom.effective_eq {o : Overrides} {read : String → Except ReadFailure String}
    {base : CaptureConfig} (h : StartsFrom o read base) :
    effective o (o.configPath.map fun path => (path, read path)) =
      .ok (o.apply base, openingOf o) := by
  unfold StartsFrom at h
  unfold openingOf
  split at h
  next ho =>
    subst h
    rw [ho]
    rfl
  next path ho =>
    obtain ⟨text, hread, hjson⟩ := h
    simp only [ho, Option.map_some, effective, CaptureConfig.ofFile, hread, hjson]
    rfl

theorem apply_proper {o : Overrides} {base : CaptureConfig} (ho : o.Proper) (hb : base.Proper) :
    (o.apply base).Proper := by
  intro p hp
  rcases Option.or_eq_some_iff.mp hp with hp | ⟨_, hp⟩
  · exact ho p hp
  · exact hb p hp

/-- Also the projection of a display as it is has no side of zero. -/
theorem mirroringFor_proper {panel : Panel} (hc : config.Proper)
    (h : Compositor.standardPanels.find? config.displayId = some panel) :
    (config.mirroringFor (.ofPanel panel)).Proper := by
  cases hp : config.projection with
  | some p =>
    rw [CaptureConfig.mirroringFor, hp]
    exact hc p hp
  | none =>
    rw [CaptureConfig.mirroringFor, hp, standardPanels_eq h]
    rfl

/-- Without the display, only the renderers are started. -/
theorem capture_absent (h : Compositor.standardPanels.find? config.displayId = none)
    (log : List String) (arrives : Nat → Bool) (fuel : Nat) :
    ∃ c, capture config log arrives fuel = (.failure log (some "probing display")
        (.displayNotFound config.displayId), c) ∧
      c.events = [.threadPoolStarted] ∧ c.liveQueues = 0 ∧ c.liveDisplays = 0 := by
  have hhosts := compositorFor_hosts config
  refine ⟨compositorFor config, ?_, rfl, hhosts.liveQueues, hhosts.liveDisplays⟩
  rw [capture, setUp_absent h]

theorem capture_found {panel : Panel} {arrives : Nat → Bool} {late : Nat} (hc : config.Proper)
    (hpanel : Compositor.standardPanels.find? config.displayId = some panel)
    (hfits : (config.mirroringFor (.ofPanel panel)).params.Fits)
    (hserved : config.frameLimit.toNat ≤
      (List.range (config.frameLimit.toNat + late)).countP (serves config.waitTimeout arrives))
    (log : List String) :
    ∃ opening first last course, setUp config log = .ok (opening, first) ∧
      Fulfilled config (config.mirroringFor (.ofPanel panel)).params arrives late opening first
        last course
        ((capture config log arrives (config.frameLimit.toNat + late)).1,
          some (capture config log arrives (config.frameLimit.toNat + late)).2) := by
  have hp := mirroringFor_proper hc hpanel
  generalize hmirroring : config.mirroringFor (.ofPanel panel) = p at hfits hp ⊢
  have hsetup := setUp_found hpanel (hmirroring ▸ hp) log
  rw [hmirroring] at hsetup
  let site := (compositorFor config).nextSite p.params
  have hz : site.params.hasZeroSide = false := hp
  have hrests : Rests site (begun config.displayId p (compositorFor config),
      (compositorFor config).hosting p.params) Tally.start.consumed :=
    begun_rests (compositorFor_hosts config) (compositorFor_armed config .lock) _ p
  have henough : config.frameLimit.toNat ≤ Tally.start.consumed +
      (List.range' 0 (config.frameLimit.toNat + late)).countP
        (serves config.waitTimeout arrives) := by
    rw [← List.range_eq_range']
    exact (Nat.zero_add _).symm ▸ hserved
  obtain ⟨course, hcourse⟩ :=
    hrests.completes hz hfits.size config.waitTimeout arrives (Nat.zero_le _) henough
  obtain ⟨last, hlast⟩ := hcourse.fulfilled hfits hz rfl hsetup
  exact ⟨_, _, last, course, hsetup, hlast⟩

/-- The program captures just what it is asked for: the settings are those of the arguments, else of
the file, else the standard ones, and the projection is that of the display, if none is set. However
many waits are in vain, it ends with the frame that makes up the limit. When the settings are
rejected, or there is no such display, it ends before there is any queue or display. -/
theorem asked_captured {arguments : List String} {o : Overrides}
    (hargs : parse arguments = .ok (.capture o)) (read : String → Except ReadFailure String)
    (arrives : Nat → Bool) (late : Nat) :
    let file := o.configPath.map fun path => (path, read path)
    let after := attempt o file arrives late
    program (m := Id) read arguments = (attempt o file (fun _ => true) 0).1 ∧
      (∀ path e, o.configPath = some path → CaptureConfig.ofFile path (read path) = .error e →
        after = (.failure [] (some ("loading " ++ path)) (.invalidConfig e), none)) ∧
      ∀ base, StartsFrom o read base →
        let config : CaptureConfig :=
          { displayId := o.displayId.getD base.displayId
            projection := o.projection.or base.projection
            frameLimit := o.frames.getD base.frameLimit
            waitTimeoutMs := o.waitTimeoutMs.or base.waitTimeoutMs
            simulatedFps := o.fps.getD base.simulatedFps }
        (Compositor.standardPanels.find? config.displayId = none → ∃ c,
          after = (.failure (openingOf o) (some "probing display")
            (.displayNotFound config.displayId), some c) ∧
          c.events = [.threadPoolStarted] ∧ c.liveQueues = 0 ∧ c.liveDisplays = 0) ∧
        ∀ panel, Compositor.standardPanels.find? config.displayId = some panel →
          let p := config.projection.getD (.ofDisplay (.ofPanel panel))
          p.params.Fits → config.frameLimit.toNat ≤
            (List.range (config.frameLimit.toNat + late)).countP
              (serves config.waitTimeout arrives) →
          ∃ log first last course, setUp config (openingOf o) = .ok (log, first) ∧
            Fulfilled config p.params arrives late log first last course after := by
  intro file after
  refine ⟨?_, ?_, ?_⟩
  · simp only [program, hargs]
    cases ho : o.configPath <;> simp [file, ho, run] <;> rfl
  · intro path e ho he
    simp only [after, attempt, file, ho, Option.map_some, effective, he]
  · intro base hbase config
    have hconfig : config.Proper := apply_proper (proper_of_parse hargs) hbase.proper
    have hafter : after =
        ((capture config (openingOf o) arrives (config.frameLimit.toNat + late)).1,
          some (capture config (openingOf o) arrives (config.frameLimit.toNat + late)).2) := by
      simp only [after, attempt, file, hbase.effective_eq]
      rfl
    refine ⟨fun habsent => ?_, ?_⟩
    · obtain ⟨c, hcapture, hc⟩ :=
        capture_absent habsent (openingOf o) arrives (config.frameLimit.toNat + late)
      exact ⟨c, by rw [hafter, hcapture], hc⟩
    · intro panel hpanel p hfits hserved
      rw [hafter]
      exact capture_found hconfig hpanel hfits hserved (openingOf o)

/-- Two frames by the file, with another projection and a bound on the waits, of which three are in
vain. -/
theorem asked_captured_late :
    let o : Overrides :=
      ⟨some "capture.json", none, none, none, some ⟨4, 3, 33, 2, .rotation90⟩, some 5⟩
    let read : String → Except ReadFailure String := fun _ => .ok "\x7b\"frame_limit\": 2\x7d"
    let config : CaptureConfig := ⟨0, some ⟨4, 3, 33, 2, .rotation90⟩, 2, some 5, 60⟩
    let arrives : Nat → Bool := fun round => round = 1 || round = 4
    parse ["--wait-timeout-ms", "5", "capture.json", "--projection=4x3@33x2/90"] =
        .ok (.capture o) ∧
      ∃ log first last course, setUp config [] = .ok (log, first) ∧
        Fulfilled config ⟨33, 2, .rotation90, 4, 3⟩ arrives 3 log first last course
          (attempt o (some ("capture.json", read "capture.json")) arrives 3) := by
  intro o read config arrives
  have hargs : parse ["--wait-timeout-ms", "5", "capture.json", "--projection=4x3@33x2/90"] =
      .ok (.capture o) := rfl
  have hbase : StartsFrom o read { CaptureConfig.standard with frameLimit := 2 } := ⟨_, rfl, rfl⟩
  have hfits : OutputParams.Fits ⟨33, 2, .rotation90, 4, 3⟩ := ⟨by decide, by decide, by decide⟩
  have hserved : 2 ≤ (List.range (2 + 3)).countP (serves config.waitTimeout arrives) := by decide
  have h := (asked_captured hargs read arrives 3).2.2 _ hbase
  exact ⟨hargs, h.2 .standard rfl hfits hserved⟩

end ScreenCapture.CommandLine
