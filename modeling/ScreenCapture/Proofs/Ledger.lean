import Mathlib.Data.List.Induction
import ScreenCapture.Proofs.Holders

namespace ScreenCapture

namespace Call

/-- Whether a call leaves displays, queues and their holders as they are. -/
def isQuiet : Call → Bool
  | startPool | newQueue | newReader _ _ | dropProducer _ | dropEndpoint _ | dropReader _
  | newDisplay | transact _ _ _ | destroy _ => false
  | arm _ _ | connect | panel _ | disableAsync _ | setSize _ _ _ | setFormat _ _ | newWaiter
  | dropWaiter _ | takeNotice _ | listen _ _ | produce _ _ | disconnect _ | lock _ | unlock _
  | render _ => true

variable {c : Compositor} {call : Call}

theorem quiet_perform (h : call.isQuiet = true) (c : Compositor) :
    c.Quiet (call.perform c).2 := by
  cases call with
  | arm point status => exact .arm point status
  | connect => exact .connect
  | panel id => exact .panel id
  | disableAsync id => exact .disableAsync id
  | setSize id width height => exact .setSize id width height
  | setFormat id format => exact .setFormat id format
  | newWaiter => exact .newWaiter
  | dropWaiter waiter => exact .dropWaiter waiter
  | takeNotice waiter =>
    simp only [perform]
    split
    next ht => exact .takeNotice ht
    next => exact .refl c
  | listen id waiter => exact .listen id waiter
  | produce id paint =>
    cases hf : c.channels.find? id with
    | none =>
      rw [perform_produce_of_none hf]
      exact .refl c
    | some channel =>
      rw [perform_produce hf]
      exact .draw channel paint
  | disconnect id => exact .disconnect id
  | lock id => exact .lock id
  | unlock id => exact .unlock id
  | render token => exact .renderStep
  | startPool | newQueue | newReader | dropProducer | dropEndpoint | dropReader | newDisplay
  | transact | destroy => cases h

theorem booked_perform (h : c.Booked) (call : Call) : (call.perform c).2.Booked := by
  by_cases hq : call.isQuiet = true
  · exact h.quiet (quiet_perform hq c)
  · cases call with
    | startPool => exact h.startPool
    | newQueue => exact h.newQueue
    | newReader id maxLocked => exact h.newReader id maxLocked
    | dropProducer id => exact h.dropProducer id
    | dropEndpoint id => exact h.dropEndpoint id
    | dropReader id => exact h.dropReader id
    | newDisplay => exact h.newDisplay
    | transact token surface projection => exact h.applyTransaction token surface projection
    | destroy token => exact h.destroyDisplay token
    | _ => exact absurd rfl hq

theorem keeps_perform {list : List Holder} (h : c.Keeps list fun _ => False) (hb : c.Booked)
    (call : Call) :
    (call.perform c).2.Keeps (Holder.transfer list call (call.perform c).1) fun _ => False := by
  by_cases hq : call.isQuiet = true
  · have hlist : Holder.transfer list call (call.perform c).1 = list := by
      cases call <;> first | rfl | cases hq
    rw [hlist]
    exact h.quiet (quiet_perform hq c)
  · cases call with
    | startPool => exact h.startPool
    | newQueue => exact h.newQueue hb
    | newReader id maxLocked => exact h.newReader id maxLocked
    | dropProducer id => exact h.dropProducer id
    | dropEndpoint id => exact h.dropEndpoint id
    | dropReader id => exact h.dropReader id
    | newDisplay => exact h.newDisplay hb
    | transact token surface projection => exact h.transact token surface projection
    | destroy token => exact h.destroy token
    | _ => exact absurd rfl hq

end Call

namespace Compositor

variable {c d e : Compositor}

/-- Events come to be recorded, and only queues that there were are released. -/
def Grown (c d : Compositor) : Prop :=
  ∃ added, d.events = c.events ++ added ∧ ∀ id, .queueReleased id ∈ added → id ∈ c.channels.keys

namespace Grown

theorem of_eq (h : d.events = c.events) : c.Grown d := ⟨[], by rw [h, List.append_nil], nofun⟩

theorem of_record {added : Event} (h : d.events = c.events ++ [added])
    (hadded : ∀ id, added ≠ .queueReleased id) : c.Grown d :=
  ⟨[added], h, fun id hid => absurd (List.mem_singleton.mp hid).symm (hadded id)⟩

theorem congr (h : d.Grown e) (he : d.events = c.events) (hk : d.channels.keys = c.channels.keys) :
    c.Grown e := by
  obtain ⟨added, hadded, hid⟩ := h
  exact ⟨added, he ▸ hadded, hk ▸ hid⟩

theorem record (h : c.Grown d) {added : Event} (hadded : ∀ id, added ≠ .queueReleased id) :
    c.Grown (d.record added) := by
  obtain ⟨before, hbefore, hid⟩ := h
  refine ⟨before ++ [added], ?_, ?_⟩
  · rw [← List.append_assoc, ← hbefore]
    rfl
  · intro id hm
    rcases List.mem_append.mp hm with hm | hm
    · exact hid id hm
    · exact absurd (List.mem_singleton.mp hm).symm (hadded id)

theorem guarded {α : Type} {point : FailPoint} {call : Compositor → Except Status α × Compositor}
    (h : c.Grown (call c).2) : c.Grown (c.guarded point call).2 := by
  unfold Compositor.guarded
  cases c.armed point with
  | some status => exact of_eq rfl
  | none => exact h

theorem reap (c : Compositor) (id : QueueId) : c.Grown (c.reap id) := by
  unfold Compositor.reap
  split
  next => exact of_eq rfl
  next hf =>
    split
    next => exact of_eq rfl
    next =>
      refine ⟨[.queueReleased id], rfl, fun other ho => ?_⟩
      cases List.mem_singleton.mp ho
      exact Registry.mem_keys.mpr (by rw [hf]; rfl)

theorem reapShown (c : Compositor) (renderer : Option Renderer) :
    c.Grown (c.reapShown renderer) := by
  cases renderer with
  | none => exact of_eq rfl
  | some r => exact reap c r.surface

theorem letGo (c : Compositor) (id : QueueId) (φ : Channel → Channel) :
    c.Grown ((c.modifyChannel id φ).reap id) :=
  (reap _ id).congr rfl (Registry.keys_modify _ _ _)

end Grown

end Compositor

namespace Call

variable {c : Compositor}

theorem grown_perform (c : Compositor) (call : Call) : c.Grown (call.perform c).2 := by
  by_cases hq : call.isQuiet = true
  · exact .of_eq (quiet_perform hq c).events
  · cases call with
    | startPool =>
      simp only [perform, Compositor.startPool]
      split
      next => exact .of_eq rfl
      next => exact .of_record rfl (by simp)
    | newQueue => exact .guarded (.of_record rfl (by simp))
    | newReader id maxLocked =>
      refine .guarded (.of_eq ?_)
      unfold Compositor.onChannel
      cases c.channels.find? id with
      | none => rfl
      | some channel =>
        simp only
        cases channel.queue.attachReader maxLocked <;> rfl
    | dropProducer id => exact .letGo c id _
    | dropEndpoint id => exact .letGo c id _
    | dropReader id => exact .letGo c id _
    | newDisplay => exact .guarded (.of_record rfl (by simp))
    | transact token surface projection =>
      rcases c.applyTransaction_cases token surface projection with
        ⟨_, _, hq⟩ | ⟨display, d, _, _, hq, he⟩
      · exact .of_eq hq.events
      · simp only [perform, he]
        have hshown := Compositor.Grown.reapShown (d.present token surface projection)
          display.renderer
        exact (hshown.congr hq.events hq.queues).record (by simp)
    | destroy token =>
      rcases c.destroyDisplay_cases token with ⟨_, he⟩ | ⟨display, d, _, hq, he⟩
      · simp only [perform, he]
        exact .of_eq rfl
      · simp only [perform, he]
        have hshown := Compositor.Grown.reapShown d display.renderer
        exact (hshown.congr hq.events hq.queues).record (by simp)
    | _ => exact absurd rfl hq

end Call

theorem holders_snoc (exchanges : List Exchange) (x : Exchange) :
    holders (exchanges ++ [x]) = Holder.transfer (holders exchanges) x.call x.reply := by
  simp [holders]

namespace Compositor

variable {c : Compositor} {list : List Holder}

theorem mem_queues_iff_held (h : c.Keeps list fun _ => False) (id : QueueId) :
    id ∈ c.channels.keys ↔ ∃ x ∈ list, x.queue = id := by
  have hk : id ∈ c.channels.keys ↔ (c.custody? id).isSome = true := by
    rw [Registry.mem_keys, custody?, Option.isSome_map]
  rw [hk]
  constructor
  · exact fun hid => (h.needed id hid).resolve_right fun hf => hf
  · rintro ⟨x, hx, rfl⟩
    exact h.kept x hx

theorem Booked.unreleased_iff (h : c.Booked) (id : QueueId) :
    .queueCreated id ∈ c.events ∧ .queueReleased id ∉ c.events ↔ id ∈ c.channels.keys := by
  rw [h.mem_queues]
  exact (h.orderly.mem_live_iff (.queue id)).symm

theorem Booked.liveDisplays_add (h : c.Booked) :
    c.liveDisplays + c.events.countP (Event.closes Resource.isDisplay) =
      c.events.countP (Event.opens Resource.isDisplay) := by
  rw [← h.orderly.countP_live, liveDisplays, ← Registry.length_keys, ← h.displays,
    List.length_filterMap_eq_countP]
  congr 2
  funext r
  cases r <;> rfl

theorem Booked.liveQueues_add (h : c.Booked) :
    c.liveQueues + c.events.countP (Event.closes Resource.isQueue) =
      c.events.countP (Event.opens Resource.isQueue) := by
  rw [← h.orderly.countP_live, liveQueues, ← Registry.length_keys, ← h.queues,
    List.length_filterMap_eq_countP]
  congr 2
  funext r
  cases r <;> rfl

end Compositor

namespace Call

/-- Whatever calls are made, the log accounts for what there is, and the queues that there are are
those that somebody holds. -/
theorem run_accounts (panels : Registry Int32 Panel) (interval : Nat) (calls : List Call) :
    (run calls (.ofPanels panels interval)).Booked ∧
      (run calls (.ofPanels panels interval)).Keeps
        (holders (exchanges calls (.ofPanels panels interval))) fun _ => False := by
  induction calls using List.reverseRecOn with
  | nil =>
    refine ⟨Compositor.ofPanels_booked panels interval, ?_, nofun, nofun, nofun⟩
    intro x
    refine iff_of_false List.not_mem_nil ?_
    cases x <;> simp [Compositor.holds, Compositor.custody?, Compositor.shows,
      Compositor.surface?, Compositor.renderer?, run, Compositor.ofPanels, Registry.find?_empty]
  | append_singleton calls call ih =>
    obtain ⟨hb, hk⟩ := ih
    rw [run_snoc, exchanges_snoc, holders_snoc]
    exact ⟨booked_perform hb call, keeps_perform hk hb call⟩

/-- Whether anybody holds a queue after some calls. -/
def Held (exchanges : List Exchange) (id : QueueId) : Prop := ∃ x ∈ holders exchanges, x.queue = id

/-- Whatever calls are made of a compositor, its log accounts for every display and queue: numbers
are given out in their order, what is live was created and not given back, nothing is heard of
before it is created or after it is given back, and a queue is there as long as somebody holds it,
to be released by the very call with which the last of them lets go. -/
theorem log_accounts (panels : Registry Int32 Panel) (interval : Nat) (calls : List Call) :
    let start := Compositor.ofPanels panels interval
    let c := run calls start
    (c.events.filterMap Event.number?).Pairwise (· < ·) ∧
    c.liveDisplays + c.events.countP (Event.closes Resource.isDisplay) =
      c.events.countP (Event.opens Resource.isDisplay) ∧
    c.liveQueues + c.events.countP (Event.closes Resource.isQueue) =
      c.events.countP (Event.opens Resource.isQueue) ∧
    (∀ before r after, c.events = before ++ Resource.closing r :: after →
      r.opening ∈ before ∧ ∀ e ∈ after, e.resource? ≠ some r) ∧
    (∀ before token after, c.events = before ++ .transactionApplied token :: after →
      .displayCreated token ∈ before) ∧
    (∀ r : Resource, c.events.count r.closing ≤ 1) ∧
    (∀ id, .queueCreated id ∈ c.events ∧ .queueReleased id ∉ c.events ↔
      Held (exchanges calls start) id) ∧
    ∀ call, ∃ added, (call.perform c).2.events = c.events ++ added ∧
      ∀ id, .queueReleased id ∈ added ↔ Held (exchanges calls start) id ∧
        ¬ Held (exchanges (calls ++ [call]) start) id := by
  intro start c
  have haccounts (calls : List Call) := run_accounts panels interval calls
  have hheld (calls : List Call) (id : QueueId) :
      .queueCreated id ∈ (run calls start).events ∧ .queueReleased id ∉ (run calls start).events ↔
        Held (exchanges calls start) id :=
    ((haccounts calls).1.unreleased_iff id).trans
      (Compositor.mem_queues_iff_held (haccounts calls).2 id)
  obtain ⟨hb, hk⟩ := haccounts calls
  refine ⟨hb.orderly.numbers_pairwise, hb.liveDisplays_add, hb.liveQueues_add, ?_, ?_,
    hb.orderly.count_closing_le_one, hheld calls, ?_⟩
  · intro before r after he
    exact Orderly.of_closing (he ▸ hb.orderly)
  · intro before token after he
    exact Orderly.of_applied (he ▸ hb.orderly)
  · intro call
    obtain ⟨added, hadded, hmem⟩ := grown_perform c call
    refine ⟨added, hadded, fun id => ?_⟩
    rw [← hheld calls, ← hheld (calls ++ [call]), run_snoc, hadded]
    constructor
    · intro hr
      refine ⟨(hb.unreleased_iff id).mpr (hmem id hr), ?_⟩
      exact fun hnot => hnot.2 (List.mem_append_right _ hr)
    · rintro ⟨⟨hcreated, hunreleased⟩, hnot⟩
      by_contra hr
      refine hnot ⟨List.mem_append_left _ hcreated, fun hm => ?_⟩
      exact (List.mem_append.mp hm).elim hunreleased hr

end Call

end ScreenCapture
