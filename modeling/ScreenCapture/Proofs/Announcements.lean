import Mathlib.Data.List.Induction
import Mathlib.Logic.Function.Iterate
import ScreenCapture.Proofs.QueueCalls

namespace ScreenCapture

namespace Exchange

/-- The waiter that is told about a frame in the course of a call on the queue. -/
def told? (x : Exchange) (id : QueueId) : Option WaiterId :=
  (x.before.channels.find? id).bind (·.announced x.reply)

/-- Whether a queued frame is thrown away with its queue. -/
def discards (x : Exchange) (id : QueueId) : Bool :=
  match x.call with
  | .disconnect queue => queue = id && (x.before.queue? id).any (·.queued.isSome)
  | _ => false

end Exchange

/-- So far each announcement was of a frame that was locked, or is queued, or was thrown away. -/
structure Backed (waiter : WaiterId) (id : QueueId) (exchanges : List Exchange)
    (channel : Channel) : Prop where
  listener : channel.queue.listener = some waiter
  abandoned : channel.queue.abandoned = true → channel.queue.queued = none
  discarded : exchanges.any (·.discards id) = true → channel.queue.abandoned = true
  balance : exchanges.countP (fun x => x.told? id = some waiter) =
    exchanges.countP (fun x => x.reply.buffer?.isSome) + channel.queue.queued.isSome.toNat +
      (exchanges.any (·.discards id)).toNat

namespace Backed

variable {waiter : WaiterId} {id : QueueId} {exchanges : List Exchange} {channel after : Channel}
  {x : Exchange}

theorem told?_eq (hf : x.before.channels.find? id = some channel) :
    x.told? id = channel.announced x.reply := by
  rw [Exchange.told?, hf]
  rfl

theorem told_snoc (hf : x.before.channels.find? id = some channel) :
    (exchanges ++ [x]).countP (fun x => x.told? id = some waiter) =
      exchanges.countP (fun x => x.told? id = some waiter) +
        (decide (channel.announced x.reply = some waiter)).toNat := by
  rw [List.countP_append, List.countP_singleton, told?_eq hf]
  cases decide (channel.announced x.reply = some waiter) <;> rfl

theorem locked_snoc :
    (exchanges ++ [x]).countP (fun x => x.reply.buffer?.isSome) =
      exchanges.countP (fun x => x.reply.buffer?.isSome) + x.reply.buffer?.isSome.toNat := by
  rw [List.countP_append, List.countP_singleton]
  cases x.reply.buffer?.isSome <;> rfl

theorem discards_snoc (exchanges : List Exchange) (hd : x.discards id = false) :
    (exchanges ++ [x]).any (·.discards id) = exchanges.any (·.discards id) := by
  rw [List.any_append, List.any_cons, hd]
  exact Bool.or_false _

/-- A call that neither produces a frame nor locks nor discards one. -/
theorem still (h : Backed waiter id exchanges channel)
    (hf : x.before.channels.find? id = some channel) (hn : x.reply.number? = none)
    (hb : x.reply.buffer? = none) (hd : x.discards id = false)
    (hlistener : after.queue.listener = channel.queue.listener)
    (hqueued : after.queue.queued = channel.queue.queued)
    (habandoned : after.queue.abandoned = channel.queue.abandoned) :
    Backed waiter id (exchanges ++ [x]) after := by
  have hany := discards_snoc exchanges hd
  refine ⟨hlistener.trans h.listener, ?_, ?_, ?_⟩
  · rw [habandoned, hqueued]
    exact h.abandoned
  · rw [hany, habandoned]
    exact h.discarded
  · rw [hany, hqueued, told_snoc hf, locked_snoc, Call.announced_of_number? hn, hb]
    exact h.balance

/-- A frame that replaces a queued one is not announced again. -/
theorem produce (h : Backed waiter id exchanges channel)
    (hf : x.before.channels.find? id = some channel) {canvas : Canvas} {n : Nat}
    (hreply : x.reply = .produced (.finished canvas (.ok n))) (hd : x.discards id = false)
    (halive : channel.queue.abandoned = false) (frame : QueuedFrame) (next : Nat) :
    Backed waiter id (exchanges ++ [x]) { channel with queue := { channel.queue with
      queued := some frame, nextFrame := next } } := by
  have hany := discards_snoc exchanges hd
  refine ⟨h.listener, fun ha => ?_, ?_, ?_⟩
  · rw [halive] at ha
    cases ha
  · rw [hany]
    exact h.discarded
  · have hbalance := h.balance
    rw [hany, told_snoc hf, locked_snoc, hreply]
    cases hq : channel.queue.queued with
    | none =>
      simp only [hq, Channel.announced, h.listener, Reply.buffer?, Option.isSome_none,
        Option.isSome_some, Bool.toNat_false, Bool.toNat_true, Bool.false_eq_true, if_false,
        decide_true] at hbalance ⊢
      omega
    | some old =>
      simp only [hq, Channel.announced, Reply.buffer?, Option.isSome_none, Option.isSome_some,
        Bool.toNat_false, Bool.toNat_true, if_true, reduceCtorEq, decide_false] at hbalance ⊢
      omega

theorem lock (h : Backed waiter id exchanges channel)
    (hf : x.before.channels.find? id = some channel) {buffer : LockedBuffer}
    (hreply : x.reply = .locked (.ok buffer)) (hd : x.discards id = false) {frame : QueuedFrame}
    (hq : channel.queue.queued = some frame) (reader : Option Reader) :
    Backed waiter id (exchanges ++ [x]) { channel with
      queue := { channel.queue with queued := none, locked := true }, reader } := by
  have hany := discards_snoc exchanges hd
  refine ⟨h.listener, fun _ => rfl, ?_, ?_⟩
  · rw [hany]
    exact h.discarded
  · have hbalance := h.balance
    rw [hany, told_snoc hf, locked_snoc, hreply]
    simp only [hq, Channel.announced, Reply.buffer?, Option.isSome_none, Option.isSome_some,
      Bool.toNat_true, Bool.toNat_false, reduceCtorEq, decide_false] at hbalance ⊢
    omega

/-- Of a queue that is abandoned already nothing is thrown away any more. -/
theorem disconnect (h : Backed waiter id exchanges channel)
    (hf : x.before.channels.find? id = some channel) (hreply : x.reply = .done)
    (hd : x.discards id = channel.queue.queued.isSome) :
    Backed waiter id (exchanges ++ [x]) { channel with queue := channel.queue.disconnect } := by
  refine ⟨h.listener, fun _ => rfl, fun _ => rfl, ?_⟩
  have hbalance := h.balance
  have hany : (exchanges ++ [x]).any (·.discards id) =
      (exchanges.any (·.discards id) || channel.queue.queued.isSome) := by
    simp [hd]
  have honce : exchanges.any (·.discards id) = true → channel.queue.queued.isSome = false :=
    fun ht => by rw [h.abandoned (h.discarded ht)]; rfl
  rw [hany, told_snoc hf, locked_snoc, hreply]
  cases hthrown : exchanges.any (·.discards id) with
  | true => simpa [hthrown, honce hthrown, Channel.announced, Reply.buffer?, Queue.disconnect]
      using hbalance
  | false =>
    rw [hthrown] at hbalance
    simpa [Channel.announced, Reply.buffer?, Queue.disconnect] using hbalance

theorem snoc (h : Backed waiter id exchanges channel)
    (hf : x.before.channels.find? id = some channel) (hon : x.call.isOn id = true)
    (hkeep : x.call ≠ .dropReader id) (hs : channel.Step x.call x.reply after) :
    Backed waiter id (exchanges ++ [x]) after := by
  have hdiscards : x.discards id = (match x.call with
      | .disconnect queue => queue = id && channel.queue.queued.isSome
      | _ => false) := by
    simp only [Exchange.discards, Compositor.queue?, hf]
    rfl
  generalize hcall : x.call = call at hs hon hkeep hdiscards
  generalize hreply : x.reply = reply at hs
  cases hs with
  | kept hd _ hn hb =>
    refine h.still hf (hreply ▸ hn) (hreply ▸ hb) ?_ rfl rfl rfl
    rw [hdiscards]
    split
    next queue => exact absurd rfl (hd queue)
    next => rfl
  | synced => exact h.still hf (hreply ▸ rfl) (hreply ▸ rfl) hdiscards rfl rfl rfl
  | sized => exact h.still hf (hreply ▸ rfl) (hreply ▸ rfl) hdiscards rfl rfl rfl
  | formatted => exact h.still hf (hreply ▸ rfl) (hreply ▸ rfl) hdiscards rfl rfl rfl
  | attached => exact h.still hf (hreply ▸ rfl) (hreply ▸ rfl) hdiscards rfl rfl rfl
  | unlocked => exact h.still hf (hreply ▸ rfl) (hreply ▸ rfl) hdiscards rfl rfl rfl
  | produced halive _ => exact h.produce hf hreply hdiscards halive _ _
  | disconnected =>
    obtain rfl := of_decide_eq_true hon
    exact h.disconnect hf hreply (hdiscards.trans (by simp))
  | locked _ hq => exact h.lock hf hreply hdiscards hq _
  | @dropped other =>
    obtain rfl := of_decide_eq_true hon
    exact absurd rfl hkeep

/-- A waiter counts what it is told. -/
theorem notified {w : Waiter} (hx : x.after.waiters = (x.before.announce (x.told? id)).waiters)
    (hw : x.before.waiters.find? waiter =
      some (Waiter.notify^[exchanges.countP fun x => x.told? id = some waiter] w)) :
    x.after.waiters.find? waiter =
      some (Waiter.notify^[(exchanges ++ [x]).countP fun x => x.told? id = some waiter] w) := by
  rw [hx, List.countP_append, List.countP_singleton]
  by_cases ht : x.told? id = some waiter
  · simp only [ht, decide_true, if_true, Function.iterate_succ_apply', Compositor.announce,
      Compositor.notify, Registry.find?_modify_self, hw, Option.map_some]
  · simp only [ht, decide_false, Bool.false_eq_true, if_false, Nat.add_zero]
    cases htold : x.told? id with
    | none => exact hw
    | some other =>
      have hne : waiter ≠ other := fun he => ht (he ▸ htold)
      exact (Registry.find?_modify_ne _ _ hne).trans hw

end Backed

namespace Call

variable {c : Compositor} {id : QueueId} {channel : Channel}

/-- What is known of a queue with a listener after calls on it. -/
theorem run_backed (waiter : WaiterId) (hf : c.channels.find? id = some channel)
    (hq : channel.queue.queued = none) (calls : List Call)
    (hcalls : ∀ call ∈ calls, call.isOn id = true ∧ call ≠ .dropReader id) :
    ∃ after, (run calls (c.listen id waiter)).channels.find? id = some after ∧
      Backed waiter id (exchanges calls (c.listen id waiter)) after ∧
      (∀ x ∈ exchanges calls (c.listen id waiter),
        x.after.waiters = (x.before.announce (x.told? id)).waiters) ∧
      ∀ w, c.waiters.find? waiter = some w →
        (run calls (c.listen id waiter)).waiters.find? waiter = some
          (Waiter.notify^[(exchanges calls (c.listen id waiter)).countP
            fun x => x.told? id = some waiter] w) := by
  induction calls using List.reverseRecOn with
  | nil =>
    refine ⟨_, Compositor.find?_modifyChannel hf _, ⟨rfl, fun _ => hq, nofun, ?_⟩, nofun,
      fun w hw => hw⟩
    simp [exchanges, Queue.listen, hq]
  | append_singleton calls call ih =>
    obtain ⟨now, hnow, hbacked, htold, hw⟩ :=
      ih fun call hc => hcalls call (List.mem_append_left _ hc)
    obtain ⟨hon, hkeep⟩ := hcalls call (List.mem_append_right _ List.mem_cons_self)
    let x : Exchange := ⟨run calls (c.listen id waiter), call⟩
    obtain ⟨after, hafter, hs, hwaiters⟩ := does_of_isOn hnow hon fun he => absurd he hkeep
    have hx : x.after.waiters = (x.before.announce (x.told? id)).waiters := by
      rw [Backed.told?_eq (x := x) hnow]
      exact hwaiters
    rw [run_snoc, exchanges_snoc]
    refine ⟨after, hafter, hbacked.snoc (x := x) hnow hon hkeep hs, ?_, fun w h =>
      Backed.notified hx (hw w h)⟩
    intro y hy
    rcases List.mem_append.mp hy with hy | hy
    · exact htold y hy
    · rw [List.mem_singleton.mp hy]
      exact hx

/-- A waiter that listens to a queue from when nothing is queued is told about just those frames
that were locked since, that is queued, and that was thrown away when the queue was abandoned. A
frame that replaces another is backed by the announcement of that one. -/
theorem announcements_balance (waiter : WaiterId) (hf : c.channels.find? id = some channel)
    (hq : channel.queue.queued = none) (calls : List Call)
    (hcalls : ∀ call ∈ calls, call.isOn id = true ∧ call ≠ .dropReader id) :
    let d := c.listen id waiter
    let xs := exchanges calls d
    let told := xs.countP fun x => x.told? id = some waiter
    (∀ x ∈ xs, x.after.waiters = (x.before.announce (x.told? id)).waiters) ∧
      (∀ w, c.waiters.find? waiter = some w →
        (run calls d).waiters.find? waiter = some (Waiter.notify^[told] w)) ∧
      ∃ queue, (run calls d).queue? id = some queue ∧
        told = xs.countP (fun x => x.reply.buffer?.isSome) + queue.queued.isSome.toNat +
          (xs.any (·.discards id)).toNat := by
  intro d xs told
  obtain ⟨after, hafter, hbacked, htold, hw⟩ := run_backed waiter hf hq calls hcalls
  refine ⟨htold, hw, after.queue, ?_, hbacked.balance⟩
  rw [Compositor.queue?, hafter]
  rfl

/-- The second frame replaces the first, and is locked. -/
theorem announcements_balance_replaced :
    let c := (Compositor.standard.newQueue.2.newReader 1 1).2.newWaiter.2
    let calls : List Call := [.produce 1 fun _ data => data, .produce 1 fun _ data => data, .lock 1]
    let xs := exchanges calls (c.listen 1 0)
    let told := xs.countP fun x => x.told? 1 = some 0
    (run calls (c.listen 1 0)).waiters.find? 0 = some (Waiter.notify^[told] .idle) ∧
      ∃ queue, (run calls (c.listen 1 0)).queue? 1 = some queue ∧
        told = xs.countP (fun x => x.reply.buffer?.isSome) + queue.queued.isSome.toNat +
          (xs.any (·.discards 1)).toNat := by
  intro c calls xs told
  have hcalls : ∀ call ∈ calls, call.isOn 1 = true ∧ call ≠ .dropReader 1 := by
    simp [calls, isOn]
  have hf : c.channels.find? 1 = some
      { queue := { Queue.fresh with hasReader := true }, reader := some .fresh
        producerHeld := true, endpointHeld := true, waitingCall := none } := rfl
  obtain ⟨_, hw, hbalance⟩ := announcements_balance 0 hf rfl calls hcalls
  exact ⟨hw .idle rfl, hbalance⟩

end Call

end ScreenCapture
