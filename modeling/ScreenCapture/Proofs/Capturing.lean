import ScreenCapture.Capture.Controller
import ScreenCapture.Proofs.Managing

namespace ScreenCapture

/-- The operations of a capture. -/
inductive Operation
  | setDesired (info : DisplayInfo)
  | setReal (info : DisplayInfo)
  | apply
  | wait
  | waitTimeout (arrives : Bool)
  | consume
  | release

inductive Answer
  | set (result : Except CaptureError Unit)
  | applied (result : Except CaptureError Unit)
  | waited (result : Except CaptureError Bool)
  | consumed (result : Except CaptureError Frame)
  | released

def Operation.perform (k : Controller) (c : Compositor) :
    Operation → Answer × Controller × Compositor
  | setDesired info => (.set (k.setDesired info).1, (k.setDesired info).2, c)
  | setReal info => (.set (k.setReal info).1, (k.setReal info).2, c)
  | apply => (.applied (k.apply c).1, (k.apply c).2)
  | wait => (.waited (k.waitForFrame c).1, (k.waitForFrame c).2)
  | waitTimeout arrives =>
    (.waited (k.waitForFrameTimeout arrives c).1, (k.waitForFrameTimeout arrives c).2)
  | consume => (.consumed (k.consume c).1, (k.consume c).2)
  | release => (.released, k.release c)

/-- What an answer adds to the statistics. -/
def CaptureStats.count (t : CaptureStats) : Answer → CaptureStats
  | .applied (.ok ()) => { t with reconfigurations := t.reconfigurations + 1 }
  | .consumed (.ok _) => { t with framesConsumed := t.framesConsumed + 1 }
  | .consumed (.error (.lockFailed _)) => { t with lockFailures := t.lockFailures + 1 }
  | _ => t

namespace Answer

def isFrame : Answer → Bool
  | consumed (.ok _) => true
  | _ => false

def isLockFailure : Answer → Bool
  | consumed (.error (.lockFailed _)) => true
  | _ => false

def isReconfiguration : Answer → Bool
  | applied (.ok ()) => true
  | _ => false

end Answer

theorem CaptureStats.count_eq (t : CaptureStats) (answer : Answer) :
    t.count answer =
      { framesConsumed := t.framesConsumed + answer.isFrame.toNat
        lockFailures := t.lockFailures + answer.isLockFailure.toNat
        reconfigurations := t.reconfigurations + answer.isReconfiguration.toNat } := by
  unfold count
  split <;> simp_all [Answer.isFrame, Answer.isLockFailure, Answer.isReconfiguration]

theorem CaptureStats.foldl_count (t : CaptureStats) (answers : List Answer) :
    answers.foldl count t =
      { framesConsumed := t.framesConsumed + answers.countP Answer.isFrame
        lockFailures := t.lockFailures + answers.countP Answer.isLockFailure
        reconfigurations := t.reconfigurations + answers.countP Answer.isReconfiguration } := by
  induction answers generalizing t with
  | nil => rfl
  | cons answer answers ih =>
    have hcount : ∀ p : Answer → Bool,
        (answer :: answers).countP p = (p answer).toNat + answers.countP p := by
      intro p
      rw [List.countP_cons, Nat.add_comm]
      cases p answer <;> rfl
    rw [List.foldl_cons, ih, count_eq]
    simp only [hcount, Nat.add_assoc]

/-- Whether the running output is given up in an operation. -/
def Operation.replaces : Operation → Bool
  | apply | release => true
  | setDesired _ | setReal _ | wait | waitTimeout _ | consume => false

def Answer.replaces : Answer → Bool
  | applied _ | released => true
  | set _ | waited _ | consumed _ => false

theorem Operation.replaces_answer {op : Operation} {k : Controller} {c : Compositor}
    {answer : Answer} {t : Controller × Compositor} (h : op.perform k c = (answer, t)) :
    answer.replaces = op.replaces := by
  have ha : answer = (op.perform k c).1 := by rw [h]
  rw [ha]
  cases op <;> rfl

/-- What becomes of a running output, and of the note that its frame is ready, in the course of an
operation, by the answer. -/
inductive Moving (c : Compositor) (p : OutputParams) :
    Option (Site × Feed) → Bool → Answer → Option (Site × Feed) → Bool → Prop
  | set {e noted r} : Moving c p e noted (.set r) e noted
  | applyRefused {e noted operation state} :
      Moving c p e noted (.applied (.error (.invalidState operation state))) e noted
  | applied {e noted r e'} : Replacing c p r e' → Moving c p e noted (.applied r) e' false
  | waitRefused {e noted operation state} :
      Moving c p e noted (.waited (.error (.invalidState operation state))) e noted
  | ready {e} : Moving c p e true (.waited (.ok true)) e true
  | waited {s f arrives b g} : Noticing arrives f.unlock b g →
      Moving c p (some (s, f)) false (.waited (.ok b)) (some (s, g)) b
  | consumeRefused {e operation state} :
      Moving c p e false (.consumed (.error (.invalidState operation state))) e false
  | lockFailed {s f status g} : Locking c s f (.error (.lockFailed status)) g →
      Moving c p (some (s, f)) true (.consumed (.error (.lockFailed status))) (some (s, g)) true
  | consumed {s f n size} : f.locked = false → f.queued = some n →
      (s.buffer n).size? = some size →
      Moving c p (some (s, f)) true (.consumed (.ok (s.capture n size))) (some (s, f.lock)) false
  | released {e noted} : Moving c p e noted .released none false

namespace Controller

/-- The controller is where it should be for what its manager runs. -/
structure Tracks (k : Controller) (c : Compositor) (e : Option (Site × Feed)) : Prop where
  runs : k.manager.Runs c e
  running : k.state.isRunning = e.isSome
  pending : k.framePending = decide (k.state = .frameReady)
  free : k.state = .frameReady → k.manager.isHolding = false

/-- An operation does what its answer says. -/
structure Performs (k : Controller) (c : Compositor) (e : Option (Site × Feed)) (answer : Answer)
    (k' : Controller) (d : Compositor) (e' : Option (Site × Feed)) : Prop where
  moving : Moving c k.params e k.framePending answer e' k'.framePending
  tracks : k'.Tracks d e'
  stats : k'.stats = k.stats.count answer

variable {k : Controller} {c : Compositor} {e : Option (Site × Feed)} {s : Site} {f : Feed}

theorem new_tracks (id : Int32) (hc : c.Hosts []) : (new id).Tracks c none :=
  ⟨.nothing hc, rfl, rfl, nofun⟩

theorem leaveIdle_stats (k : Controller) : k.leaveIdle.stats = k.stats := by
  unfold leaveIdle
  split <;> rfl

theorem leaveIdle_pending (k : Controller) : k.leaveIdle.framePending = k.framePending := by
  unfold leaveIdle
  split <;> rfl

theorem release_state (k : Controller) (c : Compositor) : (k.release c).1.state = .released := by
  unfold release
  split
  next hs => exact hs
  next => rfl

namespace Tracks

theorem frameReady (h : k.Tracks c e) (hp : k.framePending = true) : k.state = .frameReady := by
  rw [h.pending] at hp
  exact of_decide_eq_true hp

theorem noted (h : k.Tracks c e) (hs : k.state = .frameReady) : k.framePending = true :=
  h.pending.trans (decide_eq_true hs)

/-- The buffer consumed before was given back when the wait began. -/
theorem unlocked (h : k.Tracks c (some (s, f))) (hs : k.state = .frameReady) : f.locked = false :=
  h.runs.isHolding.symm.trans (h.free hs)

theorem leaveIdle (h : k.Tracks c e) : k.leaveIdle.Tracks c e := by
  by_cases hi : k.state = .idle
  · have hp := h.pending
    have hr := h.running
    simp only [hi] at hp hr
    simp only [Controller.leaveIdle, hi, if_true]
    exact ⟨h.runs, hr, hp, nofun⟩
  · simp only [Controller.leaveIdle, hi, if_false]
    exact h

/-- Taking other settings changes nothing that runs. -/
theorem settings (h : k.Tracks c e) (desired real : Option DisplayInfo)
    (r : Except CaptureError Unit) :
    Performs k c e (.set r) { k with desired, real }.leaveIdle c e := by
  have h1 : Tracks { k with desired, real } c e := ⟨h.runs, h.running, h.pending, h.free⟩
  refine ⟨?_, h1.leaveIdle, leaveIdle_stats _⟩
  rw [leaveIdle_pending]
  exact .set

theorem setDesired (h : k.Tracks c e) (info : DisplayInfo) :
    Performs k c e (.set (k.setDesired info).1) (k.setDesired info).2 c e := by
  unfold Controller.setDesired
  split
  next => exact ⟨.set, h, rfl⟩
  next => exact h.settings (some info) k.real (.ok ())

theorem setReal (h : k.Tracks c e) (info : DisplayInfo) :
    Performs k c e (.set (k.setReal info).1) (k.setReal info).2 c e := by
  unfold Controller.setReal
  split
  next => exact ⟨.set, h, rfl⟩
  next => exact h.settings k.desired (some info) (.ok ())

theorem apply (h : k.Tracks c e) :
    ∃ r k' d e', k.apply c = (r, k', d) ∧ Performs k c e (.applied r) k' d e' := by
  unfold Controller.apply
  split
  next => exact ⟨_, k, c, e, rfl, .applyRefused, h, rfl⟩
  next =>
    obtain ⟨r, m, d, e', hr, hreplacing, hd⟩ := h.runs.replaced k.params
    simp only [h.runs.reconfigure_eq, hr]
    cases hreplacing with
    | failed error =>
      exact ⟨_, _, d, none, rfl, .applied (.failed error), ⟨hd, rfl, rfl, nofun⟩, rfl⟩
    | running hz =>
      exact ⟨_, _, d, _, rfl, .applied (.running hz), ⟨hd, rfl, rfl, nofun⟩, rfl⟩

/-- A wait is refused, or over at once, or the output can draw its next frame. -/
theorem beginWait (h : k.Tracks c e) (operation : CaptureOperation) :
    (k.state.isRunning = false ∧ k.beginWait operation c = (.error (k.invalid operation), k, c)) ∨
    (k.framePending = true ∧ k.beginWait operation c = (.ok none, k, c)) ∨
    ∃ s f m d, e = some (s, f) ∧ k.framePending = false ∧
      k.beginWait operation c =
        (.ok (some s.waiter), { k with manager := m, state := .awaitingFrame }, d) ∧
      Tracks { k with manager := m, state := .awaitingFrame } d (some (s, f.unlock)) := by
  have hp := h.pending
  cases hs : k.state with
  | idle | configured | released =>
    left
    exact ⟨rfl, by simp [Controller.beginWait, hs, CaptureState.isRunning]⟩
  | frameReady =>
    right; left
    simp only [hs] at hp
    exact ⟨hp, by simp [Controller.beginWait, hs, CaptureState.isRunning, hp]⟩
  | awaitingFrame =>
    right; right
    have hr := h.running
    simp only [hs] at hp hr
    cases e with
    | none => cases hr
    | some x =>
      obtain ⟨s, f⟩ := x
      obtain ⟨b, m, d, hu, hd⟩ := h.runs.unlock
      refine ⟨s, f, m, d, rfl, hp, ?_, hd, rfl, hp, nofun⟩
      obtain ⟨o, ho, rfl, _⟩ := hd.owned
      simp [Controller.beginWait, hs, CaptureState.isRunning, hp, hu, ho]

theorem noteFrame (h : k.Tracks c (some (s, f))) (hl : f.locked = false) :
    k.noteFrame.Tracks c (some (s, f)) :=
  ⟨h.runs, rfl, rfl, fun _ => h.runs.isHolding.trans hl⟩

theorem waitAs (h : k.Tracks c e) (operation : CaptureOperation) (arrives : Bool) :
    ∃ r k' d e', k.waitAs operation arrives c = (r, k', d) ∧
      Performs k c e (.waited r) k' d e' := by
  unfold Controller.waitAs
  rcases h.beginWait operation with ⟨_, hb⟩ | ⟨hp, hb⟩ | ⟨s, f, m, d, rfl, hp, hb, hd⟩
  · rw [hb]
    exact ⟨_, k, c, e, rfl, .waitRefused, h, rfl⟩
  · rw [hb]
    refine ⟨_, k, c, e, rfl, ?_, h, rfl⟩
    rw [hp]
    exact .ready
  · obtain ⟨b, d', g, hwait, hnotice, hd'⟩ := hd.runs.awaitNotice arrives
    have h1 : Tracks { k with manager := m, state := .awaitingFrame } d' (some (s, g)) :=
      ⟨hd', hd.running, hd.pending, hd.free⟩
    rw [hb]
    simp only [hwait]
    cases b with
    | true =>
      refine ⟨_, _, d', _, rfl, ?_, h1.noteFrame hnotice.locked, rfl⟩
      rw [hp]
      exact .waited hnotice
    | false =>
      refine ⟨_, _, d', _, rfl, ?_, h1, rfl⟩
      show Moving c k.params _ k.framePending _ _ k.framePending
      rw [hp]
      exact .waited hnotice

/-- A failed lock leaves the frame pending. -/
theorem lockFailed (h : k.Tracks c (some (s, f))) {m : OutputManager} {d : Compositor} {g : Feed}
    (hd : m.Runs d (some (s, g))) (hg : g.locked = false) (stats : CaptureStats) :
    Tracks { k with manager := m, stats } d (some (s, g)) where
  runs := hd
  running := h.running
  pending := h.pending
  free _ := hd.isHolding.trans hg

theorem consume (h : k.Tracks c e) :
    ∃ r k' d e', k.consume c = (r, k', d) ∧ Performs k c e (.consumed r) k' d e' := by
  unfold Controller.consume
  by_cases hs : k.state = .frameReady
  · have hr := h.running
    have hp := h.pending
    rw [hs] at hr hp
    cases e with
    | none => cases hr
    | some x =>
      obtain ⟨s, f⟩ := x
      obtain ⟨r, m, d, g, hlock, hlocking, hd, hframe⟩ := h.runs.lockNext
      have hfree := h.unlocked hs
      rw [if_neg (not_not_intro hs)]
      simp only [hlock]
      cases hlocking with
      | held hl =>
        rw [hfree] at hl
        cases hl
      | armed _ ha =>
        exact ⟨_, _, d, _, rfl, hp ▸ .lockFailed (.armed hfree ha), h.lockFailed hd hfree _, rfl⟩
      | empty _ ha hq =>
        exact ⟨_, _, d, _, rfl, hp ▸ .lockFailed (.empty hfree ha hq), h.lockFailed hd hfree _, rfl⟩
      | large _ ha hq hsize =>
        exact ⟨_, _, d, _, rfl, hp ▸ .lockFailed (.large hfree ha hq hsize),
          h.lockFailed hd hfree _, rfl⟩
      | @locked n size _ ha hq hsize =>
        simp only [hframe _ rfl, Site.buffer_frame? hsize]
        exact ⟨_, _, d, _, rfl, hp ▸ .consumed hfree hq hsize, ⟨hd, rfl, rfl, nofun⟩, rfl⟩
  · have hp : k.framePending = false := h.pending.trans (decide_eq_false hs)
    rw [if_pos hs]
    exact ⟨_, k, c, e, rfl, hp ▸ .consumeRefused, h, rfl⟩

/-- A noted frame is consumed, or its lock fails. -/
theorem consume_moving (h : k.Tracks c e) (hp : k.framePending = true) :
    ∃ e' noted, Moving c k.params e true (.consumed (k.consume c).1) e' noted := by
  obtain ⟨r, k', d, e', he, hd⟩ := h.consume
  have hmoving := hd.moving
  rw [hp] at hmoving
  rw [he]
  exact ⟨e', _, hmoving⟩

theorem release (h : k.Tracks c e) :
    ∃ k' d, k.release c = (k', d) ∧ Performs k c e .released k' d none := by
  unfold Controller.release
  split
  next hs =>
    have hr := h.running
    have hp := h.pending
    rw [hs] at hr hp
    cases e with
    | none => exact ⟨k, c, rfl, hp ▸ .released, h, rfl⟩
    | some x => cases hr
  next =>
    simp only [h.runs.destroy_eq]
    exact ⟨_, _, rfl, .released, ⟨h.runs.cleared, rfl, rfl, nofun⟩, rfl⟩

theorem perform (h : k.Tracks c e) (op : Operation) :
    ∃ answer k' d e', op.perform k c = (answer, k', d) ∧ Performs k c e answer k' d e' := by
  cases op with
  | setDesired info => exact ⟨_, _, c, e, rfl, h.setDesired info⟩
  | setReal info => exact ⟨_, _, c, e, rfl, h.setReal info⟩
  | apply =>
    obtain ⟨r, k', d, e', hr, hd⟩ := h.apply
    exact ⟨.applied r, k', d, e', by rw [Operation.perform, hr], hd⟩
  | wait =>
    obtain ⟨r, k', d, e', hr, hd⟩ := h.waitAs .wait true
    exact ⟨.waited r, k', d, e', by rw [Operation.perform, waitForFrame, hr], hd⟩
  | waitTimeout arrives =>
    obtain ⟨r, k', d, e', hr, hd⟩ := h.waitAs .waitTimeout arrives
    exact ⟨.waited r, k', d, e', by rw [Operation.perform, waitForFrameTimeout, hr], hd⟩
  | consume =>
    obtain ⟨r, k', d, e', hr, hd⟩ := h.consume
    exact ⟨.consumed r, k', d, e', by rw [Operation.perform, hr], hd⟩
  | release =>
    obtain ⟨k', d, hr, hd⟩ := h.release
    exact ⟨.released, k', d, none, by rw [Operation.perform, hr], hd⟩

theorem happen (h : k.Tracks c e) (x : Happening) :
    ∃ parts, k.Tracks (x.apply c) (e.map fun e => (e.1, e.2.renders parts)) := by
  obtain ⟨parts, hd⟩ := h.runs.happen x
  exact ⟨parts, hd, by rw [Option.isSome_map]; exact h.running, h.pending, h.free⟩

end Tracks

end Controller

/-- What a capture and its compositor go through. -/
inductive CaptureAction
  | operate (op : Operation)
  | happen (x : Happening)

namespace CaptureAction

def step (s : Controller × Compositor) : CaptureAction → List Answer × Controller × Compositor
  | operate op => ([(op.perform s.1 s.2).1], (op.perform s.1 s.2).2)
  | happen x => ([], s.1, x.apply s.2)

/-- The answers on the way, and where it leads. -/
def run : List CaptureAction → Controller × Compositor → List Answer × Controller × Compositor
  | [], s => ([], s)
  | a :: rest, s => ((a.step s).1 ++ (run rest (a.step s).2).1, (run rest (a.step s).2).2)

theorem tracks_step {s : Controller × Compositor} {e : Option (Site × Feed)}
    (h : s.1.Tracks s.2 e) (a : CaptureAction) :
    ∃ e', (a.step s).2.1.Tracks (a.step s).2.2 e' := by
  cases a with
  | operate op =>
    obtain ⟨answer, k', d, e', he, hd⟩ := h.perform op
    simp only [step, he]
    exact ⟨e', hd.tracks⟩
  | happen x =>
    obtain ⟨_, hd⟩ := h.happen x
    exact ⟨_, hd⟩

theorem tracks_run (actions : List CaptureAction) {s : Controller × Compositor}
    {e : Option (Site × Feed)} (h : s.1.Tracks s.2 e) :
    ∃ e', (run actions s).2.1.Tracks (run actions s).2.2 e' := by
  induction actions generalizing s e with
  | nil => exact ⟨e, h⟩
  | cons a rest ih =>
    obtain ⟨_, h'⟩ := tracks_step h a
    exact ih h'

def replaces : CaptureAction → Bool
  | operate op => op.replaces
  | happen _ => false

theorem stats_step {s : Controller × Compositor} {e : Option (Site × Feed)}
    (h : s.1.Tracks s.2 e) (a : CaptureAction) :
    (a.step s).2.1.stats = (a.step s).1.foldl CaptureStats.count s.1.stats := by
  cases a with
  | operate op =>
    obtain ⟨answer, k', d, e', he, hd⟩ := h.perform op
    simp only [step, he, List.foldl_cons, List.foldl_nil, hd.stats]
  | happen x => rfl

theorem stats_run (actions : List CaptureAction) {s : Controller × Compositor}
    {e : Option (Site × Feed)} (h : s.1.Tracks s.2 e) :
    (run actions s).2.1.stats = (run actions s).1.foldl CaptureStats.count s.1.stats := by
  induction actions generalizing s e with
  | nil => rfl
  | cons a rest ih =>
    obtain ⟨_, h'⟩ := tracks_step h a
    simp only [run, List.foldl_append, ih h', stats_step h a]

end CaptureAction

end ScreenCapture
