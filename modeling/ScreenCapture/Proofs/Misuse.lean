import ScreenCapture.Proofs.Sharing

namespace ScreenCapture

/-- The operation and the state, when the error is that the one is not allowed in the other. -/
def CaptureError.refusal? : CaptureError → Option (CaptureOperation × CaptureState)
  | invalidState operation state => some (operation, state)
  | serviceUnavailable _ | displayNotFound _ | setupFailed _ _ | lockFailed _ | invalidConfig _ =>
    none

/-- The refusal in a result. -/
def refusalOf {α : Type} : Except CaptureError α → Option (CaptureOperation × CaptureState)
  | .ok _ => none
  | .error error => error.refusal?

def Answer.refusal? : Answer → Option (CaptureOperation × CaptureState)
  | set result | applied result => refusalOf result
  | waited result => refusalOf result
  | consumed result => refusalOf result
  | released => none

/-- Whether a state allows an operation. -/
def CaptureOperation.isAllowedIn (state : CaptureState) : CaptureOperation → Bool
  | setDesired | setReal | apply => state ≠ .released
  | wait | waitTimeout => state = .awaitingFrame || state = .frameReady
  | consume => state = .frameReady

/-- Under which name an operation can be refused. A release never is. -/
def Operation.kind? : Operation → Option CaptureOperation
  | setDesired _ => some .setDesired
  | setReal _ => some .setReal
  | apply => some .apply
  | wait => some .wait
  | waitTimeout _ => some .waitTimeout
  | consume => some .consume
  | release => none

theorem Operation.eq_release {op : Operation} (h : op.kind? = none) : op = .release := by
  cases op with
  | release => rfl
  | _ => cases h

namespace VirtualOutput

/-- Setting up an output fails for its own reasons. -/
theorem publish_refusal (c : Compositor) (queue : QueueId) (p : OutputParams) :
    refusalOf (publish c queue p).1 = none := by
  unfold publish
  split
  next => rfl
  next => split <;> rfl

theorem attach_refusal (c : Compositor) (queue : QueueId) (p : OutputParams) :
    refusalOf (attach c queue p).1 = none := by
  unfold attach
  split
  next => rfl
  next d _ =>
    have hpublish := publish_refusal (d.newWaiter.2.listen queue d.newWaiter.1) queue p
    simp only
    generalize publish (d.newWaiter.2.listen queue d.newWaiter.1) queue p = r at hpublish ⊢
    obtain ⟨_ | display, e⟩ := r
    · exact hpublish
    · rfl

theorem onNewQueue_refusal (c : Compositor) (p : OutputParams) :
    refusalOf (onNewQueue c p).1 = none := by
  unfold onNewQueue
  split
  next => rfl
  next queue d _ =>
    split
    next => rfl
    next e _ =>
      have hattach := attach_refusal e queue p
      generalize attach e queue p = r at hattach ⊢
      obtain ⟨_ | output, e'⟩ := r
      · exact hattach
      · rfl

theorem build_refusal (c : Compositor) (p : OutputParams) : refusalOf (build c p).1 = none := by
  unfold build
  split
  next => rfl
  next =>
    split
    next => rfl
    next d _ => exact onNewQueue_refusal d p

end VirtualOutput

theorem OutputManager.create_refusal (m : OutputManager) (c : Compositor) (p : OutputParams) :
    refusalOf (m.create c p).1 = none := by
  have hbuild := VirtualOutput.build_refusal (m.destroy c).2 p
  unfold create
  simp only
  generalize VirtualOutput.build (m.destroy c).2 p = r at hbuild ⊢
  obtain ⟨_ | output, d⟩ := r
  · exact hbuild
  · rfl

namespace FrameHolder

variable {σ : Type}

/-- A lock fails for its own reasons, and what was locked can be viewed. -/
theorem lockNext_refusal (source : BufferSource σ) (f : FrameHolder) (s : σ) :
    refusalOf (f.lockNext source s).1 = none ∧
      ∀ buffer, (f.lockNext source s).1 = .ok buffer →
        ((f.lockNext source s).2.1.frame? source (f.lockNext source s).2.2).isSome = true := by
  unfold lockNext
  split
  next => exact ⟨rfl, nofun⟩
  next =>
    split
    next => exact ⟨rfl, nofun⟩
    next =>
      split
      next => exact ⟨rfl, nofun⟩
      next size hsize =>
        refine ⟨rfl, fun _ _ => ?_⟩
        simp [frame?, LockedBuffer.frame?, hsize]

end FrameHolder

namespace Controller

/-- What a call comes to: a state that does not allow it refuses it, and does nothing else. -/
inductive Guards (k : Controller) (c : Compositor) (operation : CaptureOperation) :
    Option (CaptureOperation × CaptureState) → Controller → Compositor → Prop
  | allowed {k' : Controller} {d : Compositor} : operation.isAllowedIn k.state = true →
      Guards k c operation none k' d
  | refused : operation.isAllowedIn k.state = false →
      Guards k c operation (some (operation, k.state)) k c

variable {k : Controller}

section

variable {c : Compositor} {operation : CaptureOperation} {k' : Controller} {d : Compositor}
  {refusal : Option (CaptureOperation × CaptureState)}

theorem Guards.refusal_iff (h : k.Guards c operation refusal k' d)
    {operation' : CaptureOperation} {state : CaptureState} : refusal = some (operation', state) ↔
      operation = operation' ∧ operation'.isAllowedIn k.state = false ∧ state = k.state := by
  cases h with
  | allowed ha =>
    refine ⟨nofun, ?_⟩
    rintro ⟨rfl, hf, _⟩
    rw [ha] at hf
    cases hf
  | refused hf =>
    rw [Option.some.injEq, Prod.mk.injEq]
    constructor
    · rintro ⟨rfl, rfl⟩
      exact ⟨rfl, hf, rfl⟩
    · rintro ⟨rfl, _, rfl⟩
      exact ⟨rfl, rfl⟩

theorem Guards.undone (h : k.Guards c operation refusal k' d) (hr : refusal ≠ none) :
    (k', d) = (k, c) := by
  cases h with
  | allowed => exact absurd rfl hr
  | refused => rfl

end

theorem setDesired_guards (k : Controller) (c : Compositor) (info : DisplayInfo) :
    k.Guards c .setDesired (refusalOf (k.setDesired info).1) (k.setDesired info).2 c := by
  unfold setDesired
  split
  next hs => exact .refused (decide_eq_false (not_not_intro hs))
  next hs => exact .allowed (decide_eq_true hs)

theorem setReal_guards (k : Controller) (c : Compositor) (info : DisplayInfo) :
    k.Guards c .setReal (refusalOf (k.setReal info).1) (k.setReal info).2 c := by
  unfold setReal
  split
  next hs => exact .refused (decide_eq_false (not_not_intro hs))
  next hs => exact .allowed (decide_eq_true hs)

theorem apply_guards (k : Controller) (c : Compositor) :
    k.Guards c .apply (refusalOf (k.apply c).1) (k.apply c).2.1 (k.apply c).2.2 := by
  unfold apply
  split
  next hs => exact .refused (decide_eq_false (not_not_intro hs))
  next hs =>
    have hcreate : refusalOf (k.manager.reconfigure c k.params).1 = none :=
      OutputManager.create_refusal _ _ k.params
    generalize k.manager.reconfigure c k.params = r at hcreate ⊢
    obtain ⟨error | _, m, d⟩ := r
    · rw [show refusalOf (.error error : Except CaptureError Unit) = none from hcreate]
      exact .allowed (decide_eq_true hs)
    · exact .allowed (decide_eq_true hs)

theorem Aligned.output (h : k.Aligned) (hs : k.state.isRunning = true) :
    ∃ o, k.manager.output = some o :=
  Option.isSome_iff_exists.mp (h.symm.trans hs)

theorem Aligned.beginWait_refusal (h : k.Aligned) (hs : k.state.isRunning = true)
    (operation : CaptureOperation) (c : Compositor) :
    refusalOf (k.beginWait operation c).1 = none := by
  obtain ⟨o, ho⟩ := h.output hs
  -- the output is still there, and its waiter with it, once the buffer is given back
  obtain ⟨r, m, d, hu, o', ho'⟩ :
      ∃ r m d, k.manager.unlock c = some (r, m, d) ∧ ∃ o, m.output = some o := by
    rw [OutputManager.unlock, ho]
    exact ⟨_, _, _, rfl, _, rfl⟩
  simp only [beginWait, hs, hu, ho', Bool.not_true, Bool.false_eq_true, if_false]
  cases k.framePending <;> rfl

theorem Aligned.waitAs_refusal (h : k.Aligned) (hs : k.state.isRunning = true)
    (operation : CaptureOperation) (arrives : Bool) (c : Compositor) :
    refusalOf (k.waitAs operation arrives c).1 = none := by
  have hbegin := h.beginWait_refusal hs operation c
  unfold waitAs
  generalize k.beginWait operation c = r at hbegin ⊢
  obtain ⟨_ | _ | waiter, k', d⟩ := r
  · exact hbegin
  · rfl
  · simp only
    split <;> rfl

theorem Aligned.waitAs_guards (h : k.Aligned) (operation : CaptureOperation)
    (ho : operation.isAllowedIn k.state = k.state.isRunning) (arrives : Bool) (c : Compositor) :
    k.Guards c operation (refusalOf (k.waitAs operation arrives c).1)
      (k.waitAs operation arrives c).2.1 (k.waitAs operation arrives c).2.2 := by
  cases hs : k.state.isRunning with
  | true =>
    rw [h.waitAs_refusal hs]
    exact .allowed (ho.trans hs)
  | false =>
    simp only [waitAs, beginWait, hs, Bool.not_false, if_true]
    exact .refused (ho.trans hs)

theorem Aligned.consume_refusal (h : k.Aligned) (hs : k.state = .frameReady) (c : Compositor) :
    refusalOf (k.consume c).1 = none := by
  obtain ⟨o, ho⟩ := h.output (by rw [hs]; rfl)
  obtain ⟨hlock, hframe⟩ := FrameHolder.lockNext_refusal (Compositor.source o.queue) o.holder c
  rw [consume, if_neg (not_not_intro hs)]
  simp only [OutputManager.lockNext, ho, Option.map_some]
  generalize o.holder.lockNext (Compositor.source o.queue) c = r at hlock hframe ⊢
  obtain ⟨_ | buffer, holder, d⟩ := r
  · exact hlock
  · -- the last refusal is for a locked buffer without a view, which the lock does not return
    obtain ⟨frame, hf⟩ := Option.isSome_iff_exists.mp (hframe buffer rfl)
    simp only [OutputManager.frame?, Option.bind_some, hf]
    rfl

theorem Aligned.consume_guards (h : k.Aligned) (c : Compositor) :
    k.Guards c .consume (refusalOf (k.consume c).1) (k.consume c).2.1 (k.consume c).2.2 := by
  by_cases hs : k.state = .frameReady
  · rw [h.consume_refusal hs]
    exact .allowed (decide_eq_true hs)
  · rw [consume, if_pos hs]
    exact .refused (decide_eq_false hs)

theorem Aligned.perform_guards (h : k.Aligned) {op : Operation} {operation : CaptureOperation}
    (ho : op.kind? = some operation) (c : Compositor) :
    k.Guards c operation (op.perform k c).1.refusal? (op.perform k c).2.1 (op.perform k c).2.2 := by
  have hwait : (decide (k.state = .awaitingFrame) || decide (k.state = .frameReady)) =
      k.state.isRunning := by
    cases k.state <;> rfl
  cases op with
  | setDesired info => cases ho; exact setDesired_guards k c info
  | setReal info => cases ho; exact setReal_guards k c info
  | apply => cases ho; exact apply_guards k c
  | wait => cases ho; exact h.waitAs_guards .wait hwait true c
  | waitTimeout arrives => cases ho; exact h.waitAs_guards .waitTimeout hwait arrives c
  | consume => cases ho; exact h.consume_guards c
  | release => cases ho

theorem Aligned.perform_refusal_iff (h : k.Aligned) (op : Operation) (c : Compositor)
    (operation : CaptureOperation) (state : CaptureState) :
    (op.perform k c).1.refusal? = some (operation, state) ↔
      op.kind? = some operation ∧ operation.isAllowedIn k.state = false ∧ state = k.state := by
  cases ho : op.kind? with
  | none =>
    obtain rfl := Operation.eq_release ho
    exact ⟨nofun, nofun⟩
  | some operation' =>
    rw [(h.perform_guards ho c).refusal_iff, Option.some.injEq]

/-- What is refused does nothing. -/
theorem Aligned.perform_refused (h : k.Aligned) {op : Operation} {c : Compositor}
    (hr : (op.perform k c).1.refusal? ≠ none) : (op.perform k c).2 = (k, c) := by
  cases ho : op.kind? with
  | none =>
    obtain rfl := Operation.eq_release ho
    exact absurd rfl hr
  | some operation => exact (h.perform_guards ho c).undone hr

/-- Once released, a capture does nothing any more. -/
theorem perform_released (hs : k.state = .released) (op : Operation) (c : Compositor) :
    (op.perform k c).2 = (k, c) := by
  cases op <;> simp [Operation.perform, setDesired, setReal, apply, waitForFrame,
    waitForFrameTimeout, waitAs, beginWait, consume, release, hs, CaptureState.isRunning]

/-- A capture after a history of operations, each on whatever the compositor was by then. -/
def after (k : Controller) (history : List (Operation × Compositor)) : Controller :=
  history.foldl (fun k x => (x.1.perform k x.2).2.1) k

theorem Aligned.after (h : k.Aligned) (history : List (Operation × Compositor)) :
    (k.after history).Aligned := by
  induction history generalizing k with
  | nil => exact h
  | cons x rest ih => exact ih ((Steps.perform x.1 k x.2).aligned h)

end Controller

namespace CaptureAction

def happening? : CaptureAction → Option Happening
  | operate _ => none
  | happen x => some x

/-- Each run makes such a history for its capture. -/
theorem run_after (actions : List CaptureAction) (s : Controller × Compositor) :
    ∃ history, (run actions s).2.1 = s.1.after history := by
  induction actions generalizing s with
  | nil => exact ⟨[], rfl⟩
  | cons a rest ih =>
    obtain ⟨history, h⟩ := ih (a.step s).2
    cases a with
    | operate op => exact ⟨(op, s.2) :: history, h⟩
    | happen x => exact ⟨history, h⟩

/-- Once released, a capture leaves the compositor alone. -/
theorem run_released (actions : List CaptureAction) {s : Controller × Compositor}
    (hs : s.1.state = .released) :
    (run actions s).2 = (s.1, (actions.filterMap happening?).foldl Happening.apply s.2) := by
  induction actions generalizing s with
  | nil => rfl
  | cons a rest ih =>
    cases a with
    | operate op =>
      have hstep : (step s (operate op)).2 = s := Controller.perform_released hs op s.2
      simp only [run, hstep]
      exact ih hs
    | happen x => exact ih (s := (s.1, x.apply s.2)) hs

end CaptureAction

namespace Controller

/-- However a capture came to be where it is and whatever the compositor went through, an operation
is refused, by its name and with the state, just when the state does not allow it, and then nothing
changes. A release is for good: all that happens to the compositor from then on happens without the
capture, also when that is dropped. -/
theorem misuse_refused (id : Int32) (history : List (Operation × Compositor)) :
    let k := (new id).after history
    (∀ (op : Operation) (c : Compositor) (operation : CaptureOperation) (state : CaptureState),
      (op.perform k c).1.refusal? = some (operation, state) ↔
        op.kind? = some operation ∧ operation.isAllowedIn k.state = false ∧ state = k.state) ∧
    (∀ (op : Operation) (c : Compositor), (op.perform k c).1.refusal? ≠ none →
      (op.perform k c).2 = (k, c)) ∧
    ∀ (c : Compositor) (actions : List CaptureAction),
      let gone := k.release c
      let later := (CaptureAction.run actions gone).2
      gone.1.state = .released ∧ later.1 = gone.1 ∧
        later.2 = (actions.filterMap CaptureAction.happening?).foldl Happening.apply gone.2 ∧
        later.1.release later.2 = later := by
  intro k
  have hk : k.Aligned := Aligned.after (k := new id) rfl history
  refine ⟨hk.perform_refusal_iff, fun _ _ => hk.perform_refused, fun c actions => ?_⟩
  intro gone later
  have hs : gone.1.state = .released := release_state k c
  have hlater : later =
      (gone.1, (actions.filterMap CaptureAction.happening?).foldl Happening.apply gone.2) :=
    CaptureAction.run_released actions hs
  rw [hlater]
  exact ⟨hs, rfl, rfl, perform_released hs .release _⟩

end Controller

end ScreenCapture
