import ScreenCapture.Proofs.Accounting
import ScreenCapture.Proofs.Calls

namespace ScreenCapture

/-- Those who keep a queue from being released. -/
inductive Holder
  | producer (queue : QueueId)
  | endpoint (queue : QueueId)
  | reader (queue : QueueId)
  /-- The renderer of a display that shows the queue. -/
  | renderer (token : DisplayToken) (queue : QueueId)
  deriving DecidableEq

namespace Holder

def queue : Holder → QueueId
  | producer queue | endpoint queue | reader queue | renderer _ queue => queue

def isRendererOf (token : DisplayToken) : Holder → Bool
  | renderer other _ => other = token
  | producer _ | endpoint _ | reader _ => false

/-- Who holds queues after a call, from who held them before and the reply alone. -/
def transfer (holders : List Holder) : Call → Reply → List Holder
  | .newQueue, .numbered (.ok queue) => holders ++ [.producer queue, .endpoint queue]
  | .newReader queue _, .told (.ok ()) => holders ++ [.reader queue]
  | .dropProducer queue, _ => holders.filter (· ≠ .producer queue)
  | .dropEndpoint queue, _ => holders.filter (· ≠ .endpoint queue)
  | .dropReader queue, _ => holders.filter (· ≠ .reader queue)
  | .transact token surface _, .told (.ok ()) =>
    holders.filter (!·.isRendererOf token) ++ [.renderer token surface]
  | .destroy token, _ => holders.filter (!·.isRendererOf token)
  | _, _ => holders

end Holder

def Custody.has (custody : Custody) : Holder → Bool
  | .producer _ => custody.producer
  | .endpoint _ => custody.endpoint
  | .reader _ => custody.reader
  | .renderer _ _ => false

/-- Who holds queues after some calls. -/
def holders (exchanges : List Exchange) : List Holder :=
  exchanges.foldl (fun holders x => Holder.transfer holders x.call x.reply) []

namespace Compositor

variable {c d : Compositor} {list : List Holder} {spare : QueueId → Prop}

theorem surface?_eq_some {token : DisplayToken} {id : QueueId} :
    c.surface? token = some id ↔
      ∃ display r, c.displays.find? token = some display ∧ display.renderer = some r ∧
        r.surface = id := by
  simp only [surface?, renderer?, Option.map_eq_some_iff, Option.bind_eq_some_iff]
  constructor
  · rintro ⟨r, ⟨display, hd, hr⟩, hs⟩
    exact ⟨display, r, hd, hr, hs⟩
  · rintro ⟨display, r, hd, hr, hs⟩
    exact ⟨r, ⟨display, hd, hr⟩, hs⟩

theorem isShown_iff {id : QueueId} :
    c.isShown id = true ↔ ∃ token, c.surface? token = some id := by
  simp only [isShown, List.any_eq_true, Option.any_eq_true, decide_eq_true_eq, surface?_eq_some,
    Registry.find?_eq_some]
  constructor
  · rintro ⟨⟨token, display⟩, hd, r, hr, hs⟩
    exact ⟨token, display, r, hd, hr, hs⟩
  · rintro ⟨token, display, r, hd, hr, hs⟩
    exact ⟨⟨token, display⟩, hd, r, hr, hs⟩

/-- Whether the holder is a display that shows its queue. -/
def shows (c : Compositor) : Holder → Bool
  | .renderer token queue => c.surface? token = some queue
  | .producer _ | .endpoint _ | .reader _ => false

/-- Whether the compositor knows of the holder. -/
def holds (c : Compositor) (x : Holder) : Bool := (c.custody? x.queue).any (·.has x) || c.shows x

theorem holds_iff {x : Holder} : c.holds x = true ↔
    (∃ custody, c.custody? x.queue = some custody ∧ custody.has x = true) ∨ c.shows x = true := by
  rw [holds, Bool.or_eq_true, Option.any_eq_true]

theorem shows_congr (hs : ∀ token, d.surface? token = c.surface? token) (x : Holder) :
    d.shows x = c.shows x := by
  cases x with
  | producer | endpoint | reader => rfl
  | renderer token queue => rw [shows, shows, hs]

theorem exists_shows_iff {id : QueueId} :
    (∃ x : Holder, x.queue = id ∧ c.shows x = true) ↔ ∃ token, c.surface? token = some id := by
  constructor
  · rintro ⟨x, rfl, hx⟩
    cases x with
    | producer | endpoint | reader => cases hx
    | renderer token queue => exact ⟨token, of_decide_eq_true hx⟩
  · rintro ⟨token, h⟩
    exact ⟨.renderer token id, rfl, decide_eq_true h⟩

theorem isHeld_iff {id : QueueId} {channel : Channel}
    (hf : c.channels.find? id = some channel) (hw : channel.waitingCall = none) :
    c.isHeld id channel = true ↔ ∃ x : Holder, x.queue = id ∧ c.holds x = true := by
  have hc : c.custody? id = some channel.custody := by rw [custody?, hf]; rfl
  have hhas : (channel.producerHeld || channel.endpointHeld || channel.reader.isSome) = true ↔
      ∃ x : Holder, x.queue = id ∧ channel.custody.has x = true := by
    rw [Bool.or_eq_true, Bool.or_eq_true]
    constructor
    · rintro ((h | h) | h)
      · exact ⟨.producer id, rfl, h⟩
      · exact ⟨.endpoint id, rfl, h⟩
      · exact ⟨.reader id, rfl, h⟩
    · rintro ⟨x, _, hx⟩
      cases x with
      | producer => exact .inl (.inl hx)
      | endpoint => exact .inl (.inr hx)
      | reader => exact .inr hx
      | renderer => cases hx
  rw [isHeld, hw, Option.isSome_none, Bool.or_false, Bool.or_eq_true, hhas, isShown_iff,
    ← exists_shows_iff, ← exists_or]
  refine exists_congr fun x => ?_
  rw [← and_or_left]
  refine and_congr_right fun hx => ?_
  rw [holds_iff, hx, hc]
  simp

theorem holds_of_custody {x : Holder}
    (hc : ∀ custody, d.custody? x.queue = some custody → c.custody? x.queue = some custody)
    (hs : ∀ token, d.surface? token = c.surface? token) (h : d.holds x = true) :
    c.holds x = true := by
  rcases holds_iff.mp h with ⟨custody, hd, hx⟩ | hx
  · exact holds_iff.mpr (.inl ⟨custody, hc custody hd, hx⟩)
  · exact holds_iff.mpr (.inr (shows_congr hs x ▸ hx))

theorem holds_congr {x : Holder} (hc : d.custody? x.queue = c.custody? x.queue)
    (hs : ∀ token, d.surface? token = c.surface? token) : d.holds x = c.holds x := by
  rw [Bool.eq_iff_iff]
  constructor
  · exact holds_of_custody (fun _ h => hc ▸ h) hs
  · exact holds_of_custody (fun _ h => hc.symm ▸ h) fun token => (hs token).symm

theorem custody?_erase (c : Compositor) (id other : QueueId) :
    ({ c with channels := c.channels.erase id } : Compositor).custody? other =
      if other = id then none else c.custody? other := by
  split
  next h => rw [h, custody?, Registry.find?_erase_self]; rfl
  next h => rw [custody?, Registry.find?_erase_ne _ h]; rfl

theorem custody?_modifyChannel {id : QueueId} {φ : Channel → Channel} (ψ : Custody → Custody)
    (hφ : ∀ channel, (φ channel).custody = ψ channel.custody) (other : QueueId) :
    (c.modifyChannel id φ).custody? other =
      if other = id then (c.custody? id).map ψ else c.custody? other := by
  split
  next h =>
    rw [h, custody?, modifyChannel, Registry.find?_modify_self, custody?, Option.map_map,
      Option.map_map]
    congr 1
    exact funext hφ
  next h => rw [custody?, modifyChannel, Registry.find?_modify_ne _ _ h, custody?]

/-- Who lets go of a queue holds it no longer, and everybody else does as before. -/
theorem holds_letGo {x : Holder} {φ : Channel → Channel} (ψ : Custody → Custody)
    (hφ : ∀ channel, (φ channel).custody = ψ channel.custody) (hx : c.shows x = false)
    (hψ : ∀ custody (y : Holder), y.queue = x.queue →
      (ψ custody).has y = (custody.has y && decide (y ≠ x))) (y : Holder) :
    (c.modifyChannel x.queue φ).holds y = true ↔ c.holds y = true ∧ y ≠ x := by
  have hc : (c.modifyChannel x.queue φ).custody? y.queue =
      if y.queue = x.queue then (c.custody? x.queue).map ψ else c.custody? y.queue :=
    custody?_modifyChannel ψ hφ y.queue
  have hshows : (c.modifyChannel x.queue φ).shows y = c.shows y := shows_congr (fun _ => rfl) y
  have hne : c.shows y = true → y ≠ x := by
    rintro hy rfl
    rw [hx] at hy
    cases hy
  rw [holds, hshows, hc, holds]
  by_cases hq : y.queue = x.queue
  · rw [if_pos hq, hq]
    cases hk : c.custody? x.queue with
    | none => simpa using hne
    | some custody =>
      simp only [Option.map_some, Option.any_some, hψ custody y hq, Bool.or_eq_true,
        Bool.and_eq_true, decide_eq_true_eq]
      tauto
  · have hyx : y ≠ x := fun he => hq (congrArg Holder.queue he)
    rw [if_neg hq]
    exact (and_iff_left hyx).symm

/-- The queues are those that somebody holds, and perhaps some that are to be released. -/
structure Keeps (c : Compositor) (list : List Holder) (spare : QueueId → Prop) : Prop where
  holds (x : Holder) : x ∈ list ↔ c.holds x = true
  kept (x : Holder) : x ∈ list → (c.custody? x.queue).isSome = true
  needed (id : QueueId) : (c.custody? id).isSome = true → (∃ x ∈ list, x.queue = id) ∨ spare id
  /-- No call waits for a slot. -/
  idle (id : QueueId) (custody : Custody) : c.custody? id = some custody → custody.call = none

namespace Keeps

theorem congr (h : c.Keeps list spare) (hc : ∀ id, d.custody? id = c.custody? id)
    (hs : ∀ token, d.surface? token = c.surface? token) : d.Keeps list spare where
  holds x := by rw [holds_congr (hc x.queue) hs]; exact h.holds x
  kept x hx := by rw [hc]; exact h.kept x hx
  needed id hid := by rw [hc] at hid; exact h.needed id hid
  idle id custody hid := by rw [hc] at hid; exact h.idle id custody hid

theorem quiet (h : c.Keeps list spare) (hd : c.Quiet d) : d.Keeps list spare :=
  h.congr hd.custody hd.surface

theorem mono {spare' : QueueId → Prop} (h : c.Keeps list spare) (hs : ∀ id, spare id → spare' id) :
    c.Keeps list spare' :=
  ⟨h.holds, h.kept, fun id hid => (h.needed id hid).imp_right (hs id), h.idle⟩

/-- Some holders let go, and others come. -/
theorem change (h : c.Keeps list fun _ => False) (p : Holder → Bool) (new : List Holder)
    (hholds : ∀ x, d.holds x = true ↔ c.holds x = true ∧ p x = true ∨ x ∈ new)
    (hqueues : ∀ id, (d.custody? id).isSome = true ↔
      (c.custody? id).isSome = true ∨ ∃ x ∈ new, x.queue = id)
    (hidle : ∀ id custody, d.custody? id = some custody → custody.call = none) :
    d.Keeps (list.filter p ++ new)
      fun id => ∃ x, c.holds x = true ∧ p x = false ∧ x.queue = id where
  holds x := by rw [hholds, List.mem_append, List.mem_filter, h.holds]
  kept x hx := by
    rw [hqueues]
    rcases List.mem_append.mp hx with hx | hx
    · exact .inl (h.kept x (List.mem_of_mem_filter hx))
    · exact .inr ⟨x, hx, rfl⟩
  needed id hid := by
    rcases (hqueues id).mp hid with hid | ⟨x, hx, hq⟩
    · obtain ⟨x, hx, hq⟩ := (h.needed id hid).resolve_right fun hf => hf
      cases hp : p x with
      | true => exact .inl ⟨x, List.mem_append_left _ (List.mem_filter.mpr ⟨hx, hp⟩), hq⟩
      | false => exact .inr ⟨x, (h.holds x).mp hx, hp, hq⟩
    · exact .inl ⟨x, List.mem_append_right _ hx, hq⟩
  idle := hidle

/-- A queue that nobody holds is gone. -/
theorem erase {id : QueueId} (h : c.Keeps list (· = id)) (hfree : ∀ x ∈ list, x.queue ≠ id)
    (hc : ∀ other, d.custody? other = if other = id then none else c.custody? other)
    (hs : ∀ token, d.surface? token = c.surface? token) : d.Keeps list fun _ => False where
  holds x := by
    by_cases hx : x.queue = id
    · refine iff_of_false (fun hm => hfree x hm hx) fun hd => hfree x ((h.holds x).mpr ?_) hx
      refine holds_of_custody ?_ hs hd
      intro custody hd
      rw [hc, if_pos hx] at hd
      cases hd
    · rw [h.holds, holds_congr (by rw [hc, if_neg hx]) hs]
  kept x hx := by
    rw [hc, if_neg (hfree x hx)]
    exact h.kept x hx
  needed other ho := by
    rw [hc] at ho
    split at ho
    next => cases ho
    next hne => exact .inl ((h.needed other ho).resolve_right hne)
  idle other custody ho := by
    rw [hc] at ho
    split at ho
    next => cases ho
    next => exact h.idle other custody ho

/-- Where nothing is to be released but one queue, reaping that queue leaves no other. -/
theorem reap (id : QueueId) (h : c.Keeps list (· = id)) :
    (c.reap id).Keeps list fun _ => False := by
  unfold Compositor.reap
  split
  next hf =>
    refine ⟨h.holds, h.kept, ?_, h.idle⟩
    intro other ho
    refine (h.needed other ho).imp_right ?_
    rintro rfl
    simp [custody?, hf] at ho
  next channel hf =>
    have hw : channel.waitingCall = none := h.idle id channel.custody (by rw [custody?, hf]; rfl)
    split
    next hheld =>
      obtain ⟨x, hx, hholds⟩ := (isHeld_iff hf hw).mp hheld
      refine ⟨h.holds, h.kept, ?_, h.idle⟩
      intro other ho
      refine .inl ((h.needed other ho).elim (fun hn => hn) ?_)
      rintro rfl
      exact ⟨x, (h.holds x).mpr hholds, hx⟩
    next hheld =>
      have hfree : ∀ x ∈ list, x.queue ≠ id := fun x hm hx =>
        hheld ((isHeld_iff hf hw).mpr ⟨x, hx, (h.holds x).mp hm⟩)
      exact h.erase hfree (c.custody?_erase id) fun _ => rfl

theorem reapShown (renderer : Option Renderer)
    (h : c.Keeps list fun id => ∃ r, renderer = some r ∧ r.surface = id) :
    (c.reapShown renderer).Keeps list fun _ => False := by
  cases renderer with
  | none => exact h.mono fun id ⟨r, hr, _⟩ => by cases hr
  | some r =>
    refine reap r.surface (h.mono ?_)
    rintro id ⟨r', hr, hs⟩
    cases hr
    exact hs.symm

theorem guarded {α : Type} {point : FailPoint} {call : Compositor → Except Status α × Compositor}
    (h : c.Keeps list spare) (hcall : (call c).2.Keeps list spare) :
    (c.guarded point call).2.Keeps list spare := by
  unfold Compositor.guarded
  cases c.armed point with
  | some status => exact h.quiet (.disarm point)
  | none => exact hcall

/-- A handle of a queue is let go, and with the last one the queue. -/
theorem letGo (h : c.Keeps list fun _ => False) (x : Holder) {φ : Channel → Channel}
    (ψ : Custody → Custody) (hφ : ∀ channel, (φ channel).custody = ψ channel.custody)
    (hcall : ∀ custody, (ψ custody).call = custody.call) (hx : c.shows x = false)
    (hψ : ∀ custody (y : Holder), y.queue = x.queue →
      (ψ custody).has y = (custody.has y && decide (y ≠ x))) :
    ((c.modifyChannel x.queue φ).reap x.queue).Keeps (list.filter (· ≠ x)) fun _ => False := by
  have hc (other : QueueId) : (c.modifyChannel x.queue φ).custody? other =
      if other = x.queue then (c.custody? x.queue).map ψ else c.custody? other :=
    custody?_modifyChannel ψ hφ other
  have hchange : (c.modifyChannel x.queue φ).Keeps (list.filter (· ≠ x) ++ [])
      fun id => ∃ y, c.holds y = true ∧ decide (y ≠ x) = false ∧ y.queue = id := by
    refine h.change (· ≠ x) [] ?_ ?_ ?_
    · exact fun y => by simpa using holds_letGo ψ hφ hx hψ y
    · intro other
      rw [hc]
      split
      next ho => simp [ho]
      next => simp
    · intro other custody ho
      rw [hc] at ho
      split at ho
      next =>
        obtain ⟨custody', hc', rfl⟩ := Option.map_eq_some_iff.mp ho
        rw [hcall]
        exact h.idle _ custody' hc'
      next => exact h.idle other custody ho
  rw [List.append_nil] at hchange
  refine reap x.queue (hchange.mono ?_)
  rintro id ⟨y, _, hy, rfl⟩
  simp only [ne_eq, decide_not, Bool.not_eq_false', decide_eq_true_eq] at hy
  rw [hy]

theorem dropProducer (h : c.Keeps list fun _ => False) (id : QueueId) :
    (c.dropProducer id).Keeps (list.filter (· ≠ .producer id)) fun _ => False := by
  refine h.letGo (.producer id) (fun custody => { custody with producer := false })
    (fun _ => rfl) (fun _ => rfl) rfl ?_
  intro custody y hy
  cases y <;> simp_all [Custody.has, Holder.queue]

theorem dropEndpoint (h : c.Keeps list fun _ => False) (id : QueueId) :
    (c.dropEndpoint id).Keeps (list.filter (· ≠ .endpoint id)) fun _ => False := by
  refine h.letGo (.endpoint id) (fun custody => { custody with endpoint := false })
    (fun _ => rfl) (fun _ => rfl) rfl ?_
  intro custody y hy
  cases y <;> simp_all [Custody.has, Holder.queue]

theorem dropReader (h : c.Keeps list fun _ => False) (id : QueueId) :
    (c.dropReader id).Keeps (list.filter (· ≠ .reader id)) fun _ => False := by
  refine h.letGo (.reader id) (fun custody => { custody with reader := false })
    ?_ (fun _ => rfl) rfl ?_
  · intro channel
    cases hr : channel.reader <;> simp [Channel.custody, hr]
  · intro custody y hy
    cases y <;> simp_all [Custody.has, Holder.queue]

/-- A display shows another queue from now on, or none. -/
theorem redisplay (h : c.Keeps list fun _ => False) (token : DisplayToken) (shown : Option QueueId)
    (hc : ∀ id, d.custody? id = c.custody? id)
    (hs : ∀ other, d.surface? other = if other = token then shown else c.surface? other)
    (hshown : ∀ id, shown = some id → (c.custody? id).isSome = true) :
    d.Keeps (list.filter (!·.isRendererOf token) ++ shown.toList.map (.renderer token))
      fun id => c.surface? token = some id := by
  refine (h.change (!·.isRendererOf token) (shown.toList.map (.renderer token)) ?_ ?_ ?_).mono ?_
  · intro x
    rw [holds_iff, holds_iff, hc]
    cases x with
    | producer | endpoint | reader => simp [shows, Holder.isRendererOf]
    | renderer other queue =>
      by_cases ho : other = token
      · cases shown <;> simp [shows, Holder.isRendererOf, Custody.has, hs, ho, eq_comm]
      · cases shown <;> simp [shows, Holder.isRendererOf, Custody.has, hs, ho]
  · intro id
    rw [hc]
    refine ⟨.inl, fun hid => hid.elim (fun hid => hid) ?_⟩
    rintro ⟨x, hx, rfl⟩
    cases hsh : shown with
    | none => simp [hsh] at hx
    | some queue =>
      simp only [hsh, Option.toList_some, List.map_cons, List.map_nil, List.mem_singleton] at hx
      rw [hx]
      exact hshown queue hsh
  · intro id custody hid
    rw [hc] at hid
    exact h.idle id custody hid
  · rintro id ⟨x, hx, hp, rfl⟩
    cases x with
    | producer | endpoint | reader => cases hp
    | renderer other queue =>
      have ho : other = token := by simpa [Holder.isRendererOf] using hp
      subst ho
      rcases holds_iff.mp hx with ⟨_, _, hx⟩ | hx
      · cases hx
      · exact of_decide_eq_true hx

theorem startPool (h : c.Keeps list spare) : c.startPool.Keeps list spare := by
  unfold Compositor.startPool
  split
  next => exact h
  next => exact h.congr (fun _ => rfl) fun _ => rfl

/-- Handles of a queue come to be held, besides those that are. -/
theorem joins (h : c.Keeps list fun _ => False) (id : QueueId) (custody : Custody)
    {new : List Holder} (hne : new ≠ []) (hnew : ∀ x ∈ new, x.queue = id)
    (hc : ∀ other, d.custody? other = if other = id then some custody else c.custody? other)
    (hs : ∀ token, d.surface? token = c.surface? token) (hcall : custody.call = none)
    (hhas : ∀ x : Holder, x.queue = id → (custody.has x = true ↔
      (∃ before, c.custody? x.queue = some before ∧ before.has x = true) ∨ x ∈ new)) :
    d.Keeps (list ++ new) fun _ => False where
  holds x := by
    rw [List.mem_append, h.holds]
    by_cases hx : x.queue = id
    · have hd : (∃ after, d.custody? x.queue = some after ∧ after.has x = true) ↔
          custody.has x = true := by
        rw [hc, if_pos hx]
        simp
      rw [holds_iff, holds_iff, hd, hhas x hx, shows_congr hs, or_right_comm]
    · have hx' : x ∉ new := fun hm => hx (hnew x hm)
      have hsame : d.holds x = c.holds x := holds_congr (by rw [hc, if_neg hx]) hs
      rw [hsame]
      simp [hx']
  kept x hx := by
    rw [hc]
    split
    next => rfl
    next hq =>
      rcases List.mem_append.mp hx with hx | hx
      · exact h.kept x hx
      · exact absurd (hnew x hx) hq
  needed other ho := by
    rw [hc] at ho
    split at ho
    next hq =>
      obtain ⟨x, hx⟩ := List.exists_mem_of_ne_nil new hne
      exact .inl ⟨x, List.mem_append_right _ hx, (hnew x hx).trans hq.symm⟩
    next =>
      refine (h.needed other ho).imp_left ?_
      rintro ⟨x, hx, hq⟩
      exact ⟨x, List.mem_append_left _ hx, hq⟩
  idle other after ho := by
    rw [hc] at ho
    split at ho
    next => exact Option.some.inj ho ▸ hcall
    next => exact h.idle other after ho

theorem newQueue (h : c.Keeps list fun _ => False) (hb : c.Booked) :
    c.newQueue.2.Keeps (Holder.transfer list .newQueue (.numbered c.newQueue.1))
      fun _ => False := by
  have hnone : c.custody? c.nextId = none := by
    rw [custody?, Registry.find?_of_not_mem_keys hb.next_not_mem.1]
    rfl
  unfold Compositor.newQueue Compositor.guarded
  cases c.armed .newQueue with
  | some status => exact h.quiet (.disarm _)
  | none =>
    refine h.joins c.nextId ⟨true, true, false, none⟩ (by simp)
      (by simp [Holder.queue, takeId]) ?_ (fun _ => rfl) rfl ?_
    · intro other
      by_cases ho : other = c.nextId
      · rw [if_pos ho, ho]
        exact congrArg (Option.map Channel.custody) (Registry.find?_insert_self _ _ _)
      · rw [if_neg ho]
        exact congrArg (Option.map Channel.custody) (Registry.find?_insert_ne _ _ ho)
    · rintro x hx
      rw [hx, hnone]
      cases x <;> simp_all [Custody.has, Holder.queue, takeId]

theorem newReader (h : c.Keeps list fun _ => False) (id : QueueId) (maxLocked : Nat) :
    (c.newReader id maxLocked).2.Keeps
      (Holder.transfer list (.newReader id maxLocked) (.told (c.newReader id maxLocked).1))
      fun _ => False := by
  unfold Compositor.newReader Compositor.guarded
  cases c.armed .newReader with
  | some status => exact h.quiet (.disarm _)
  | none =>
    simp only [onChannel]
    cases hf : c.channels.find? id with
    | none => exact h
    | some channel =>
      simp only
      cases channel.queue.attachReader maxLocked with
      | error status => exact h
      | ok queue =>
        have hk : c.custody? id = some channel.custody := by rw [custody?, hf]; rfl
        refine h.joins id { channel.custody with reader := true }
          (by simp) (by simp [Holder.queue]) ?_ (fun _ => rfl) (h.idle id channel.custody hk) ?_
        · intro other
          rw [custody?_modifyChannel (fun custody => { custody with reader := true })
            fun _ => rfl, hk]
          rfl
        · intro x hx
          rw [hx, hk]
          cases x <;> simp_all [Custody.has, Holder.queue]

theorem newDisplay (h : c.Keeps list fun _ => False) (hb : c.Booked) :
    c.newDisplay.2.Keeps list fun _ => False := by
  refine h.guarded (h.congr (fun _ => rfl) fun token => ?_)
  by_cases ht : token = c.nextId
  · simp [ht, surface?, renderer?, takeId, record, Registry.find?_insert_self,
      Registry.find?_of_not_mem_keys hb.next_not_mem.2]
  · simp only [surface?, renderer?, takeId, record, Registry.find?_insert_ne _ _ ht]

theorem transact (h : c.Keeps list fun _ => False) (token : DisplayToken) (surface : QueueId)
    (projection : Projection) :
    (c.applyTransaction token surface projection).2.Keeps
      (Holder.transfer list (.transact token surface projection)
        (.told (c.applyTransaction token surface projection).1)) fun _ => False := by
  rcases c.applyTransaction_cases token surface projection with
    ⟨status, he, hq⟩ | ⟨display, d, hd, ⟨channel, hf⟩, hq, he⟩
  · rw [he]
    exact h.quiet hq
  · have hfound : (d.displays.find? token).isSome = true := by
      rw [← Registry.mem_keys, hq.displays, Registry.mem_keys, hd]
      rfl
    have hshown := (h.quiet hq).redisplay (d := d.present token surface projection)
      token (some surface) (fun _ => rfl) ?_ ?_
    · rw [he]
      refine (reapShown display.renderer (hshown.mono ?_)).congr (fun _ => rfl) fun _ => rfl
      intro id hid
      rw [hq.surface, surface?_eq_some] at hid
      obtain ⟨display', r, hd', hr, hs⟩ := hid
      obtain rfl := Option.some.inj (hd.symm.trans hd')
      exact ⟨r, hr, hs⟩
    · intro other
      split
      next ho =>
        obtain ⟨display', hd'⟩ := Option.isSome_iff_exists.mp hfound
        rw [ho, surface?, renderer?, present, Registry.find?_modify_self, hd']
        rfl
      next ho =>
        rw [surface?, renderer?, present, Registry.find?_modify_ne _ _ ho]
        rfl
    · intro id hid
      cases hid
      rw [hq.custody, custody?, hf]
      rfl

theorem destroy (h : c.Keeps list fun _ => False) (token : DisplayToken) :
    (c.destroyDisplay token).Keeps (list.filter (!·.isRendererOf token)) fun _ => False := by
  have herase : Keeps { c with displays := c.displays.erase token }
      (list.filter (!·.isRendererOf token)) fun id => c.surface? token = some id := by
    have hshown := h.redisplay (d := { c with displays := c.displays.erase token })
      token none (fun _ => rfl) ?_ nofun
    · rwa [Option.toList_none, List.map_nil, List.append_nil] at hshown
    · intro other
      split
      next ho => rw [ho, surface?, renderer?, Registry.find?_erase_self]; rfl
      next ho => rw [surface?, renderer?, Registry.find?_erase_ne _ ho]; rfl
  rcases c.destroyDisplay_cases token with ⟨hd, he⟩ | ⟨display, d, hd, hq, he⟩
  · rw [he]
    have hnone : c.surface? token = none := by rw [surface?, renderer?, hd]; rfl
    refine (herase.mono fun id hid => ?_).congr (fun _ => rfl) fun other => ?_
    · rw [hnone] at hid
      cases hid
    · rw [Registry.erase_of_absent hd]
  · rw [he]
    refine (reapShown display.renderer ((herase.quiet hq).mono ?_)).congr (fun _ => rfl)
      fun _ => rfl
    intro id hid
    obtain ⟨display', r, hd', hr, hs⟩ := surface?_eq_some.mp hid
    obtain rfl := Option.some.inj (hd.symm.trans hd')
    exact ⟨r, hr, hs⟩

end Keeps

end Compositor

end ScreenCapture
