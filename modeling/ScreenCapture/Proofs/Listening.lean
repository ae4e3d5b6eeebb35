import Mathlib.Data.List.DropRight
import Mathlib.Data.List.Induction
import ScreenCapture.Proofs.Announcements

namespace ScreenCapture

theorem Waiter.pending_notify_pos (w : Waiter) : 0 < w.notify.pending := by
  simp only [notify, limit]
  omega

theorem Waiter.take?_of_pos {w : Waiter} (h : 0 < w.pending) : w.take? = some ⟨w.pending - 1⟩ :=
  if_neg (Nat.ne_of_gt h)

/-- A waiter hears of what is announced to it, and of nothing else. -/
theorem Compositor.find?_announce {c : Compositor} {waiter : WaiterId} {w : Waiter}
    (hw : c.waiters.find? waiter = some w) (told : Option WaiterId) :
    (c.announce told).waiters.find? waiter =
      some (if told = some waiter then w.notify else w) := by
  cases told with
  | none => exact hw
  | some other =>
    by_cases ho : other = waiter
    · subst ho
      rw [if_pos rfl, announce, notify, Registry.find?_modify_self, hw]
      rfl
    · rw [if_neg fun he => ho (Option.some.inj he)]
      exact (Registry.find?_modify_ne _ _ (Ne.symm ho)).trans hw

/-- Whether a call is made on the queue, or is a wait. The reader stays, and so does the listener. -/
def Call.isHeard (id : QueueId) : Call → Bool
  | takeNotice _ => true
  | dropReader _ => false
  | call => call.isOn id

namespace Exchange

/-- Whether the call is a wait on the waiter that succeeds. -/
def takes (x : Exchange) (waiter : WaiterId) : Bool :=
  match x.call, x.reply with
  | .takeNotice other, .noticed taken => decide (other = waiter) && taken
  | _, _ => false

def locks (x : Exchange) : Bool := x.reply.buffer?.isSome

/-- The calls after the last one that locked a frame. -/
def sinceLock (xs : List Exchange) : List Exchange := xs.rtakeWhile fun x => !x.locks

/-- No wait on the waiter has succeeded since the last frame was locked. -/
def Patient (waiter : WaiterId) (xs : List Exchange) : Prop :=
  ∀ x ∈ sinceLock xs, x.takes waiter = false

instance (waiter : WaiterId) (xs : List Exchange) : Decidable (Patient waiter xs) :=
  inferInstanceAs (Decidable (∀ x ∈ sinceLock xs, x.takes waiter = false))

/-- What was queued before the listener came, if anything, was locked since. -/
def Cleared (attached : Queue) (xs : List Exchange) : Prop :=
  attached.queued.isSome = true → ∃ x ∈ xs, x.locks = true

variable {waiter : WaiterId} {attached : Queue} {xs : List Exchange} {x : Exchange}

theorem cleared_snoc (hl : x.locks = false) :
    Cleared attached (xs ++ [x]) ↔ Cleared attached xs := by
  simp [Cleared, or_and_right, exists_or, hl]

theorem not_cleared_of_snoc (hl : x.locks = false) (hc : ¬Cleared attached (xs ++ [x])) :
    ¬Cleared attached xs :=
  mt (cleared_snoc hl).mpr hc

theorem cleared_of_locks (hl : x.locks = true) : Cleared attached (xs ++ [x]) :=
  fun _ => ⟨x, List.mem_append_right _ List.mem_cons_self, hl⟩

theorem patient_snoc (hl : x.locks = false) :
    Patient waiter (xs ++ [x]) ↔ Patient waiter xs ∧ x.takes waiter = false := by
  have h : sinceLock (xs ++ [x]) = sinceLock xs ++ [x] :=
    List.rtakeWhile_concat_pos _ _ _ (by rw [hl]; rfl)
  simp only [Patient, h, List.forall_mem_append, List.forall_mem_singleton]

end Exchange

open Exchange

/-- What a waiter is owed after calls on the queue it listens to. A frame that was queued before the
listener came was not announced to it, and neither is what replaces that frame. -/
structure Owed (waiter : WaiterId) (attached : Queue) (before : Waiter) (xs : List Exchange)
    (queue : Queue) (w : Waiter) : Prop where
  listener : queue.listener = some waiter
  owed : Cleared attached xs → queue.queued.isSome = true → Patient waiter xs → 0 < w.pending
  occupied : ¬Cleared attached xs → queue.abandoned = false → queue.queued.isSome = true
  untold : ¬Cleared attached xs → Patient waiter xs → w = before
  sync : attached.sync = true → queue.sync = true
  blocked : attached.sync = true → ¬Cleared attached xs → ∀ x ∈ xs, x.reply.number? = none

namespace Owed

variable {waiter : WaiterId} {attached queue after : Queue} {before w : Waiter}
  {xs : List Exchange} {x : Exchange}

theorem start (waiter : WaiterId) (attached : Queue) (before : Waiter) :
    Owed waiter attached before [] (attached.listen waiter) before where
  listener := rfl
  owed hc hq := by
    obtain ⟨_, hx, _⟩ := hc hq
    cases hx
  occupied hc _ := Bool.of_not_eq_false fun hq => hc fun hs => absurd (hq ▸ hs) Bool.false_ne_true
  untold _ _ := rfl
  sync := id
  blocked _ _ := nofun

theorem untold_snoc (h : Owed waiter attached before xs queue w) (hl : x.locks = false)
    (hc : ¬Cleared attached (xs ++ [x])) (hp : Patient waiter (xs ++ [x])) : w = before :=
  h.untold (not_cleared_of_snoc hl hc) ((patient_snoc hl).mp hp).1

theorem blocked_snoc (h : Owed waiter attached before xs queue w) (hl : x.locks = false)
    (hn : x.reply.number? = none) (hs : attached.sync = true)
    (hc : ¬Cleared attached (xs ++ [x])) : ∀ y ∈ xs ++ [x], y.reply.number? = none :=
  List.forall_mem_append.mpr
    ⟨h.blocked hs (not_cleared_of_snoc hl hc), List.forall_mem_singleton.mpr hn⟩

/-- A call that neither produces a frame nor locks one. -/
theorem still (h : Owed waiter attached before xs queue w) (hl : x.locks = false)
    (hn : x.reply.number? = none) (hlistener : after.listener = queue.listener)
    (hqueued : after.queued = queue.queued) (habandoned : after.abandoned = queue.abandoned)
    (hsync : queue.sync = true → after.sync = true) :
    Owed waiter attached before (xs ++ [x]) after w where
  listener := hlistener.trans h.listener
  owed hc hq hp :=
    h.owed ((cleared_snoc hl).mp hc) (hqueued ▸ hq) ((patient_snoc hl).mp hp).1
  occupied hc ha := by
    rw [hqueued]
    exact h.occupied (not_cleared_of_snoc hl hc) (habandoned ▸ ha)
  untold := h.untold_snoc hl
  sync hs := hsync (h.sync hs)
  blocked := h.blocked_snoc hl hn

/-- A frame that replaces another is not announced, be that one announced or not. -/
theorem produce (h : Owed waiter attached before xs queue w) (hl : x.locks = false)
    (halive : queue.abandoned = false) (hfree : queue.sync = true → queue.queued = none)
    (frame : QueuedFrame) (next : Nat) :
    Owed waiter attached before (xs ++ [x]) { queue with queued := some frame, nextFrame := next }
      (if queue.queued.isSome then w else w.notify) where
  listener := h.listener
  owed hc _ hp := by
    split
    next hq => exact h.owed ((cleared_snoc hl).mp hc) hq ((patient_snoc hl).mp hp).1
    next => exact w.pending_notify_pos
  occupied _ _ := rfl
  untold hc hp := by
    rw [if_pos (h.occupied (not_cleared_of_snoc hl hc) halive)]
    exact h.untold_snoc hl hc hp
  sync := h.sync
  blocked hs hc := by
    have hq := h.occupied (not_cleared_of_snoc hl hc) halive
    rw [hfree (h.sync hs)] at hq
    cases hq

theorem lock (h : Owed waiter attached before xs queue w) (hl : x.locks = true) (locked : Bool) :
    Owed waiter attached before (xs ++ [x]) { queue with queued := none, locked } w where
  listener := h.listener
  owed _ := nofun
  occupied hc := absurd (cleared_of_locks hl) hc
  untold hc := absurd (cleared_of_locks hl) hc
  sync := h.sync
  blocked _ hc := absurd (cleared_of_locks hl) hc

theorem disconnect (h : Owed waiter attached before xs queue w) (hl : x.locks = false)
    (hn : x.reply.number? = none) :
    Owed waiter attached before (xs ++ [x]) queue.disconnect w where
  listener := h.listener
  owed _ := nofun
  occupied _ := nofun
  untold := h.untold_snoc hl
  sync := h.sync
  blocked := h.blocked_snoc hl hn

/-- After a wait that succeeds nothing is owed until a frame is locked. -/
theorem take (h : Owed waiter attached before xs queue w) (hl : x.locks = false)
    (hn : x.reply.number? = none) (ht : x.takes waiter = true) (v : Waiter) :
    Owed waiter attached before (xs ++ [x]) queue v := by
  have himpatient : ¬Patient waiter (xs ++ [x]) := fun hp => by
    rw [((patient_snoc hl).mp hp).2] at ht
    cases ht
  exact {
    listener := h.listener
    owed := fun _ _ hp => absurd hp himpatient
    occupied := fun hc => h.occupied (not_cleared_of_snoc hl hc)
    untold := fun _ hp => absurd hp himpatient
    sync := h.sync
    blocked := h.blocked_snoc hl hn }

/-- Every call on the queue leaves a waiter what it is owed. -/
theorem snoc {target : QueueId} {channel after : Channel}
    (h : Owed waiter attached before xs channel.queue w) (hon : x.call.isOn target = true)
    (hkeep : x.call ≠ .dropReader target) (hs : channel.Step x.call x.reply after) :
    Owed waiter attached before (xs ++ [x]) after.queue
      (if channel.announced x.reply = some waiter then w.notify else w) := by
  have hlocks : x.locks = x.reply.buffer?.isSome := rfl
  generalize hcall : x.call = call at hs hon hkeep
  generalize hreply : x.reply = reply at hs hlocks
  have hquiet (hn : reply.number? = none) :
      (if channel.announced reply = some waiter then w.notify else w) = w :=
    if_neg (by simp [Call.announced_of_number? hn])
  cases hs with
  | kept _ _ hn hb =>
    rw [hquiet hn]
    exact h.still (by rw [hlocks, hb]; rfl) (hreply ▸ hn) rfl rfl rfl id
  | synced =>
    rw [hquiet rfl]
    exact h.still hlocks (hreply ▸ rfl) rfl rfl rfl fun _ => rfl
  | sized =>
    rw [hquiet rfl]
    exact h.still hlocks (hreply ▸ rfl) rfl rfl rfl id
  | formatted =>
    rw [hquiet rfl]
    exact h.still hlocks (hreply ▸ rfl) rfl rfl rfl id
  | attached =>
    rw [hquiet rfl]
    exact h.still hlocks (hreply ▸ rfl) rfl rfl rfl id
  | unlocked =>
    rw [hquiet rfl]
    exact h.still hlocks (hreply ▸ rfl) rfl rfl rfl id
  | @produced _ paint halive hfree =>
    have hw : (if channel.announced (.produced (.finished channel.queue.canvas
          (.ok channel.queue.nextFrame))) = some waiter then w.notify else w) =
        if channel.queue.queued.isSome then w else w.notify := by
      simp only [Channel.announced, h.listener]
      cases channel.queue.queued.isSome <;> simp
    rw [hw]
    exact h.produce hlocks halive (fun hs => (hfree hs).2) _ _
  | disconnected =>
    rw [hquiet rfl]
    exact h.disconnect hlocks (hreply ▸ rfl)
  | locked =>
    rw [hquiet rfl]
    exact h.lock hlocks true
  | @dropped other =>
    obtain rfl := of_decide_eq_true hon
    exact absurd rfl hkeep

end Owed

namespace Call

variable {c : Compositor} {id : QueueId} {channel : Channel} {waiter : WaiterId} {w : Waiter}

/-- A wait leaves the queues alone, and every waiter but the one it is made on. -/
theorem takeNotice_owed {attached : Queue} {before : Waiter} {xs : List Exchange}
    (h : Owed waiter attached before xs channel.queue w) (hw : c.waiters.find? waiter = some w)
    (other : WaiterId) :
    let x : Exchange := ⟨c, .takeNotice other⟩
    x.after.channels = c.channels ∧
      ∃ v, x.after.waiters.find? waiter = some v ∧
        Owed waiter attached before (xs ++ [x]) channel.queue v := by
  intro x
  cases ht : c.takeNotice? other with
  | none =>
    have hx : (takeNotice other).perform c = (.noticed false, c) := by simp only [perform, ht]
    have hreply : x.reply = .noticed false := congrArg Prod.fst hx
    have hafter : x.after = c := congrArg Prod.snd hx
    rw [hafter]
    refine ⟨rfl, w, hw, h.still ?_ ?_ rfl rfl rfl id⟩
    · rw [locks, hreply]
      rfl
    · rw [hreply]
      rfl
  | some d =>
    have hx : (takeNotice other).perform c = (.noticed true, d) := by simp only [perform, ht]
    have hreply : x.reply = .noticed true := congrArg Prod.fst hx
    have hafter : x.after = d := congrArg Prod.snd hx
    have hlocks : x.locks = false := by
      rw [locks, hreply]
      rfl
    have hnumber : x.reply.number? = none := by
      rw [hreply]
      rfl
    simp only [Compositor.takeNotice?, Option.bind_eq_some_iff, Option.map_eq_some_iff] at ht
    obtain ⟨v, _, v', _, rfl⟩ := ht
    rw [hafter]
    refine ⟨rfl, ?_⟩
    by_cases ho : other = waiter
    · subst ho
      have htakes : x.takes other = true := by
        rw [takes, hreply]
        exact (Bool.and_true _).trans (decide_eq_true rfl)
      refine ⟨v', ?_, h.take hlocks hnumber htakes v'⟩
      rw [Registry.find?_modify_self, hw]
      rfl
    · exact ⟨w, (Registry.find?_modify_ne _ _ (Ne.symm ho)).trans hw,
        h.still hlocks hnumber rfl rfl rfl id⟩

/-- What a waiter is owed after any calls on the queue it listens to, and any waits. -/
theorem run_owed (hf : c.channels.find? id = some channel) (hw : c.waiters.find? waiter = some w)
    (calls : List Call) (hcalls : ∀ call ∈ calls, call.isHeard id = true) :
    let d := c.listen id waiter
    ∃ now v, (run calls d).channels.find? id = some now ∧
      (run calls d).waiters.find? waiter = some v ∧
      Owed waiter channel.queue w (exchanges calls d) now.queue v := by
  intro d
  induction calls using List.reverseRecOn with
  | nil => exact ⟨_, w, Compositor.find?_modifyChannel hf _, hw, .start _ _ _⟩
  | append_singleton calls call ih =>
    obtain ⟨now, v, hnow, hv, howed⟩ := ih fun call hc => hcalls call (List.mem_append_left _ hc)
    have hheard := hcalls call (List.mem_append_right _ List.mem_cons_self)
    rw [run_snoc, exchanges_snoc]
    have honcall (hon : call.isOn id = true) (hkeep : call ≠ .dropReader id) :
        ∃ now v, (call.perform (run calls d)).2.channels.find? id = some now ∧
          (call.perform (run calls d)).2.waiters.find? waiter = some v ∧
          Owed waiter channel.queue w (exchanges calls d ++ [⟨run calls d, call⟩]) now.queue v := by
      obtain ⟨after, hafter, hs, hwaiters⟩ := does_of_isOn hnow hon fun he => absurd he hkeep
      refine ⟨after, _, hafter, ?_, howed.snoc (x := ⟨run calls d, call⟩) hon hkeep hs⟩
      rw [hwaiters]
      exact Compositor.find?_announce hv _
    cases call with
    | takeNotice other =>
      obtain ⟨hchannels, v', hv', howed⟩ := takeNotice_owed howed hv other
      exact ⟨now, v', hchannels ▸ hnow, hv', howed⟩
    | dropReader => cases hheard
    | _ => exact honcall hheard (by simp)

/-- Whoever has not waited since the last frame was locked does not wait beside a frame that was
produced since the listener came, if nothing was queued then, or it was locked since, or producers
wait for the reader. If what was queued then was replaced, the waiter was told of nothing, and is
left waiting unless it had announcements left from before. -/
theorem waits_answered (hf : c.channels.find? id = some channel)
    (hw : c.waiters.find? waiter = some w) (calls : List Call)
    (hcalls : ∀ call ∈ calls, call.isHeard id = true) :
    let d := c.listen id waiter
    let xs := exchanges calls d
    let now := run calls d
    ∃ queue, now.queue? id = some queue ∧
      ∀ frame, queue.queued = some frame →
        (∃ x ∈ xs, x.reply.number? = some frame.number) → Patient waiter xs →
          (Cleared channel.queue xs ∨ channel.queue.sync = true →
            0 < now.pending waiter ∧ ((takeNotice waiter).perform now).1 = .noticed true) ∧
          (¬Cleared channel.queue xs → now.waiters.find? waiter = some w) := by
  intro d xs now
  obtain ⟨after, v, hafter, hv, howed⟩ := run_owed hf hw calls hcalls
  refine ⟨after.queue, by rw [Compositor.queue?, hafter]; rfl, ?_⟩
  rintro frame hq ⟨x, hx, hnumber⟩ hpatient
  refine ⟨fun hcause => ?_, fun hc => (howed.untold hc hpatient) ▸ hv⟩
  have hcleared : Cleared channel.queue xs := by
    rcases hcause with hc | hs
    · exact hc
    · by_contra hc
      -- While what was queued stays, a producer that waits for the reader produces nothing.
      rw [howed.blocked hs hc x hx] at hnumber
      cases hnumber
  have hpos : 0 < v.pending := howed.owed hcleared (hq ▸ rfl) hpatient
  refine ⟨by rw [Compositor.pending, hv]; exact hpos, ?_⟩
  simp only [perform, Compositor.takeNotice?, show now.waiters.find? waiter = some v from hv,
    Option.bind_some, Waiter.take?_of_pos hpos, Option.map_some]

/-- The listener comes to an empty queue; a frame is waited for and locked, another is announced. -/
theorem waits_answered_locked :
    let c := (Compositor.standard.newQueue.2.newReader 1 1).2.newWaiter.2
    let calls : List Call :=
      [.produce 1 fun _ data => data, .takeNotice 0, .lock 1, .produce 1 fun _ data => data]
    let now := run calls (c.listen 1 0)
    0 < now.pending 0 ∧ ((takeNotice 0).perform now).1 = .noticed true := by
  intro c calls now
  have hcalls : ∀ call ∈ calls, call.isHeard 1 = true := by
    simp [calls, isHeard, isOn]
  have hf : c.channels.find? 1 = some
      { queue := { Queue.fresh with hasReader := true }, reader := some .fresh
        producerHeld := true, endpointHeld := true, waitingCall := none } := rfl
  have hw : c.waiters.find? 0 = some .idle := rfl
  obtain ⟨queue, hqueue, hframes⟩ := waits_answered hf hw calls hcalls
  cases hqueue
  have hpatient : Patient 0 (exchanges calls (c.listen 1 0)) := by decide
  have hcleared : Cleared Queue.fresh (exchanges calls (c.listen 1 0)) := fun hq => by cases hq
  exact (hframes _ rfl ⟨_, List.mem_of_getLast? rfl, rfl⟩ hpatient).1 (.inl hcleared)

/-- What replaces a frame that was queued before the listener came is not announced: the waiter is
left waiting beside a frame that was produced since. -/
theorem replacement_unannounced :
    let c := ((produce 1 fun _ data => data).perform
      (Compositor.standard.newQueue.2.newReader 1 1).2.newWaiter.2).2
    let calls : List Call := [.produce 1 fun _ data => data]
    let d := c.listen 1 0
    let now := run calls d
    (∀ call ∈ calls, call.isHeard 1 = true) ∧
      (∃ queue frame, now.queue? 1 = some queue ∧ queue.queued = some frame ∧
        ∃ x ∈ exchanges calls d, x.reply.number? = some frame.number) ∧
      Patient 0 (exchanges calls d) ∧
      now.pending 0 = 0 ∧ ((takeNotice 0).perform now).1 = .noticed false := by
  intro c calls d now
  exact ⟨by simp [calls, isHeard, isOn], ⟨_, _, rfl, rfl, _, List.mem_cons_self, rfl⟩,
    by decide, rfl, rfl⟩

end Call

end ScreenCapture
