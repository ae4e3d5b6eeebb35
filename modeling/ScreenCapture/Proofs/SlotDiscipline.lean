import Mathlib.Data.List.Induction
import ScreenCapture.Proofs.QueueCalls
import ScreenCapture.Proofs.SetUp

namespace ScreenCapture

def LockedBuffer.canvas (buffer : LockedBuffer) : Canvas :=
  { width := buffer.width, height := buffer.height, stride := buffer.stride
    format := buffer.format }

namespace Exchange

/-- A frame is produced as the queue is set when the call begins. -/
def Produces (x : Exchange) (id : QueueId) (frame : QueuedFrame) : Prop :=
  ∃ queue paint, x.before.queue? id = some queue ∧ x.call = .produce id paint ∧
    x.reply = .produced (.finished queue.canvas (.ok frame.number)) ∧
    frame.canvas = queue.canvas ∧
    frame.data = .mk fun _ => paint queue.canvas queue.canvas.blank

/-- The locked buffer is given back, or its reader is dropped. -/
def LetsGo (x : Exchange) (id : QueueId) : Prop :=
  x.call = .unlock id ∧ x.reply = .told (.ok ()) ∨ x.call = .dropReader id

end Exchange

/-- The queue was made synchronous before any frame was produced. -/
def SynchronousFirst (id : QueueId) (exchanges : List Exchange) : Prop :=
  ∃ before x after, exchanges = before ++ x :: after ∧ x.call = .disableAsync id ∧
    x.reply = .told (.ok ()) ∧ ∀ y ∈ before, y.reply.number? = none

/-- Numbers of the frames that were locked, in the order of the locks. -/
def lockedNumbers (exchanges : List Exchange) : List Nat :=
  exchanges.filterMap fun x => x.reply.buffer?.map (·.number)

/-- Numbers of the frames that were produced. -/
def producedNumbers (exchanges : List Exchange) : List Nat :=
  exchanges.filterMap fun x => x.reply.number?

namespace Channel

/-- What is known of a queue whose producer is held. -/
structure Slotted (channel : Channel) : Prop where
  held : channel.producerHeld = true
  attached : channel.reader.isSome = true → channel.queue.hasReader = true
  locked : channel.queue.locked = channel.reader.any (·.data.isSome)
  abandoned : channel.queue.abandoned = true → channel.queue.queued = none
  single : channel.queue.sync = true → channel.queue.queued.isSome = true →
    channel.queue.locked = false

variable {channel after : Channel} {call : Call} {reply : Reply}

namespace Slotted

theorem fresh : VirtualOutput.newChannel.Slotted := ⟨rfl, nofun, rfl, nofun, nofun⟩

theorem reader_eq_none (h : channel.Slotted) (hr : channel.queue.hasReader = false) :
    channel.reader = none := by
  cases hs : channel.reader with
  | none => rfl
  | some reader =>
    have ha := h.attached (by rw [hs]; rfl)
    rw [hr] at ha
    cases ha

theorem step (h : channel.Slotted) (hs : channel.Step call reply after) : after.Slotted := by
  cases hs with
  | kept => exact h
  | synced hr =>
    -- nothing is locked as long as there was no reader
    have hnone := h.reader_eq_none hr
    have hfree : channel.queue.locked = false := by rw [h.locked, hnone]; rfl
    exact ⟨h.held, h.attached, h.locked, h.abandoned, fun _ _ => hfree⟩
  | sized => exact ⟨h.held, h.attached, h.locked, h.abandoned, h.single⟩
  | formatted => exact ⟨h.held, h.attached, h.locked, h.abandoned, h.single⟩
  | attached hr =>
    have hfree : channel.queue.locked = false := by rw [h.locked, h.reader_eq_none hr]; rfl
    exact ⟨h.held, fun _ => rfl, hfree, h.abandoned, h.single⟩
  | produced halive hfree =>
    refine ⟨h.held, h.attached, h.locked, fun ha => ?_, fun hs _ => (hfree hs).1⟩
    rw [halive] at ha
    cases ha
  | disconnected => exact ⟨h.held, h.attached, h.locked, fun _ => rfl, fun _ => nofun⟩
  | locked hr _ =>
    exact ⟨h.held, fun _ => h.attached (by rw [hr]; rfl), rfl, fun _ => rfl, fun _ => nofun⟩
  | unlocked hr =>
    exact ⟨h.held, fun _ => h.attached (by rw [hr]; rfl), rfl, h.abandoned, fun _ _ => rfl⟩
  | @dropped _ reader hr =>
    have hlocked := h.locked
    rw [hr] at hlocked
    obtain ⟨_ | data⟩ := reader
    · exact ⟨h.held, nofun, hlocked, h.abandoned, h.single⟩
    · exact ⟨h.held, nofun, rfl, h.abandoned, fun _ _ => rfl⟩

end Slotted

/-- A step by which no frame is produced or locked: a queued frame stays, unless the queue is
abandoned, and a locked one is given back at most. -/
structure Still (channel : Channel) (call : Call) (reply : Reply) (after : Channel) : Prop where
  nextFrame : after.queue.nextFrame = channel.queue.nextFrame
  queued : after.queue.queued = channel.queue.queued ∨
    after.queue.queued = none ∧ after.queue.abandoned = true
  sync : channel.queue.sync = true → after.queue.sync = true
  synced (id : QueueId) : call = .disableAsync id → reply = .told (.ok ()) →
    after.queue.sync = true
  abandoned : after.queue.abandoned = false → channel.queue.abandoned = false
  reads (data : Thunk Bytes) : channel.reader = some ⟨some data⟩ →
    after.reader = some ⟨some data⟩ ∨ (∃ id, call = .unlock id) ∧ reply = .told (.ok ()) ∨
      ∃ id, call = .dropReader id

/-- What is locked stays locked, unless it is let go of. -/
theorem Still.locked {x : Exchange} {id : QueueId} (hs : channel.Still x.call x.reply after)
    (hon : x.call.isOn id = true) (hx : ¬ x.LetsGo id) {data : Thunk Bytes}
    (hr : channel.reader = some ⟨some data⟩) : after.reader = some ⟨some data⟩ := by
  rcases hs.reads data hr with hr | ⟨⟨other, hcall⟩, hreply⟩ | ⟨other, hcall⟩
  · exact hr
  · rw [hcall] at hon
    obtain rfl := of_decide_eq_true hon
    exact absurd (.inl ⟨hcall, hreply⟩) hx
  · rw [hcall] at hon
    obtain rfl := of_decide_eq_true hon
    exact absurd (.inr hcall) hx

theorem Step.still (h : channel.Slotted) (hs : channel.Step call reply after)
    (hn : reply.number? = none) (hb : reply.buffer? = none) :
    channel.Still call reply after := by
  cases hs with
  | kept _ htold =>
    exact ⟨rfl, .inl rfl, fun hs => hs, fun _ _ hr => absurd hr htold, fun ha => ha,
      fun _ hr => .inl hr⟩
  | synced =>
    exact ⟨rfl, .inl rfl, fun _ => rfl, fun _ _ _ => rfl, fun ha => ha, fun _ hr => .inl hr⟩
  | sized => exact ⟨rfl, .inl rfl, fun hs => hs, nofun, fun ha => ha, fun _ hr => .inl hr⟩
  | formatted => exact ⟨rfl, .inl rfl, fun hs => hs, nofun, fun ha => ha, fun _ hr => .inl hr⟩
  | attached hr =>
    refine ⟨rfl, .inl rfl, fun hs => hs, nofun, fun ha => ha, fun _ hd => ?_⟩
    rw [h.reader_eq_none hr] at hd
    cases hd
  | produced => cases hn
  | disconnected =>
    exact ⟨rfl, .inr ⟨rfl, rfl⟩, fun hs => hs, nofun, nofun, fun _ hr => .inl hr⟩
  | locked => cases hb
  | unlocked =>
    exact ⟨rfl, .inl rfl, fun hs => hs, nofun, fun ha => ha,
      fun _ _ => .inr (.inl ⟨⟨_, rfl⟩, rfl⟩)⟩
  | @dropped _ reader =>
    obtain ⟨_ | data⟩ := reader
    · exact ⟨rfl, .inl rfl, fun hs => hs, nofun, fun ha => ha, fun _ _ => .inr (.inr ⟨_, rfl⟩)⟩
    · exact ⟨rfl, .inl rfl, fun hs => hs, nofun, fun ha => ha, fun _ _ => .inr (.inr ⟨_, rfl⟩)⟩

theorem Step.of_number? {n : Nat} (hs : channel.Step call reply after)
    (hn : reply.number? = some n) :
    ∃ id paint, call = .produce id paint ∧
      reply = .produced (.finished channel.queue.canvas (.ok channel.queue.nextFrame)) ∧
      channel.queue.abandoned = false ∧
      (channel.queue.sync = true → channel.queue.locked = false ∧ channel.queue.queued = none) ∧
      after = { channel with queue := { channel.queue with
        queued := some (channel.painted paint), nextFrame := channel.queue.nextFrame + 1 } } := by
  cases hs with
  | @produced id paint halive hfree => exact ⟨id, paint, rfl, rfl, halive, hfree, rfl⟩
  | kept _ _ hnone =>
    rw [hnone] at hn
    cases hn
  | synced | sized | formatted | attached | disconnected | locked | unlocked | dropped => cases hn

theorem Step.of_buffer? {buffer : LockedBuffer} (hs : channel.Step call reply after)
    (hb : reply.buffer? = some buffer) :
    ∃ frame, buffer = Reader.describe frame ∧ channel.queue.queued = some frame ∧
      channel.reader = some ⟨none⟩ ∧ after = { channel with
        queue := { channel.queue with queued := none, locked := true }
        reader := some ⟨some frame.data⟩ } := by
  cases hs with
  | @locked _ frame hr hq => exact ⟨frame, (Option.some.inj hb).symm, hq, hr, rfl⟩
  | kept _ _ _ hnone =>
    rw [hnone] at hb
    cases hb
  | synced | sized | formatted | attached | produced | disconnected | unlocked | dropped =>
    cases hb

end Channel

/-- What the calls on a queue so far have to do with its slot. -/
structure Recorded (id : QueueId) (exchanges : List Exchange) (channel : Channel) : Prop where
  produced : producedNumbers exchanges = List.range channel.queue.nextFrame
  newest (frame : QueuedFrame) : channel.queue.queued = some frame →
    frame.number + 1 = channel.queue.nextFrame ∧ ∃ x ∈ exchanges, x.Produces id frame
  increasing : (lockedNumbers exchanges).Pairwise (· < ·)
  past (n : Nat) : n ∈ lockedNumbers exchanges →
    n + channel.queue.queued.isSome.toNat < channel.queue.nextFrame
  reads (before : List Exchange) (x : Exchange) (after : List Exchange) (buffer : LockedBuffer) :
    exchanges = before ++ x :: after → x.reply.buffer? = some buffer →
      ∃ y ∈ before, ∃ data, y.Produces id ⟨buffer.canvas, buffer.number, data⟩ ∧
        ((∀ z ∈ after, ¬ z.LetsGo id) → channel.reader = some ⟨some data⟩)
  latest (x : Exchange) : x ∈ exchanges → ∀ buffer, x.reply.buffer? = some buffer →
    ∃ queue, x.before.queue? id = some queue ∧ buffer.number + 1 = queue.nextFrame
  ordered : SynchronousFirst id exchanges → channel.queue.sync = true ∧
    lockedNumbers exchanges = List.range (lockedNumbers exchanges).length ∧
    (channel.queue.abandoned = false → (lockedNumbers exchanges).length +
      channel.queue.queued.isSome.toNat = channel.queue.nextFrame)

namespace Recorded

variable {id : QueueId} {exchanges : List Exchange} {channel after : Channel} {x : Exchange}

theorem producedNumbers_snoc (exchanges : List Exchange) (x : Exchange) :
    producedNumbers (exchanges ++ [x]) = producedNumbers exchanges ++ x.reply.number?.toList := by
  rw [producedNumbers, List.filterMap_append]
  cases h : x.reply.number? <;> simp [h, producedNumbers]

theorem lockedNumbers_snoc (exchanges : List Exchange) (x : Exchange) :
    lockedNumbers (exchanges ++ [x]) =
      lockedNumbers exchanges ++ (x.reply.buffer?.map (·.number)).toList := by
  rw [lockedNumbers, List.filterMap_append]
  cases h : x.reply.buffer? <;> simp [h, lockedNumbers]

/-- An exchange among some and one more is that one, or among the others. -/
theorem snoc_cases {before after : List Exchange} {z : Exchange}
    (h : exchanges ++ [z] = before ++ x :: after) :
    (before = exchanges ∧ x = z ∧ after = []) ∨
      ∃ mid, exchanges = before ++ x :: mid ∧ after = mid ++ [z] := by
  rcases List.eq_nil_or_concat after with rfl | ⟨mid, last, rfl⟩
  · obtain ⟨rfl, hx⟩ := List.append_inj' h rfl
    exact .inl ⟨rfl, (List.singleton_inj.mp hx).symm, rfl⟩
  · rw [List.concat_eq_append, ← List.cons_append, ← List.append_assoc] at h
    obtain ⟨rfl, hz⟩ := List.append_inj' h rfl
    rw [List.singleton_inj.mp hz]
    exact .inr ⟨mid, rfl, List.concat_eq_append⟩

theorem synchronousFirst_snoc (h : SynchronousFirst id (exchanges ++ [x])) :
    SynchronousFirst id exchanges ∨ x.call = .disableAsync id ∧ x.reply = .told (.ok ()) ∧
      ∀ y ∈ exchanges, y.reply.number? = none := by
  obtain ⟨before, y, after, he, hcall, hreply, hbefore⟩ := h
  rcases snoc_cases he with ⟨rfl, rfl, rfl⟩ | ⟨mid, rfl, rfl⟩
  · exact .inr ⟨hcall, hreply, hbefore⟩
  · exact .inl ⟨before, y, mid, rfl, hcall, hreply, hbefore⟩

/-- Before the first frame there is nothing queued, and nothing was locked. -/
theorem nothing (h : Recorded id exchanges channel)
    (hnone : ∀ y ∈ exchanges, y.reply.number? = none) :
    channel.queue.nextFrame = 0 ∧ channel.queue.queued = none ∧ lockedNumbers exchanges = [] := by
  have hzero : channel.queue.nextFrame = 0 := by
    have hp := h.produced
    rw [producedNumbers, List.filterMap_eq_nil_iff.mpr hnone] at hp
    exact List.range_eq_nil.mp hp.symm
  refine ⟨hzero, ?_, ?_⟩
  · cases hq : channel.queue.queued with
    | none => rfl
    | some frame =>
      have hn := (h.newest frame hq).1
      omega
  · refine List.eq_nil_iff_forall_not_mem.mpr fun n hn => ?_
    have hlt := h.past n hn
    omega

theorem fresh (id : QueueId) : Recorded id [] VirtualOutput.newChannel := by
  refine ⟨rfl, nofun, .nil, nofun, ?_, nofun, ?_⟩
  · intro before x after buffer he
    exact absurd he.symm (List.append_ne_nil_of_right_ne_nil _ (List.cons_ne_nil _ _))
  · rintro ⟨before, x, after, he, _⟩
    exact absurd he.symm (List.append_ne_nil_of_right_ne_nil _ (List.cons_ne_nil _ _))

/-- A frame that was locked before reads as before, if the one more call keeps what is locked. -/
theorem reads_snoc (h : Recorded id exchanges channel)
    (hkeeps : ∀ data, ¬ x.LetsGo id → channel.reader = some ⟨some data⟩ →
      after.reader = some ⟨some data⟩)
    {before mid : List Exchange} {y : Exchange} {buffer : LockedBuffer}
    (he : exchanges = before ++ y :: mid) (hbuffer : y.reply.buffer? = some buffer) :
    ∃ z ∈ before, ∃ data, z.Produces id ⟨buffer.canvas, buffer.number, data⟩ ∧
      ((∀ w ∈ mid ++ [x], ¬ w.LetsGo id) → after.reader = some ⟨some data⟩) := by
  obtain ⟨z, hz, data, hproduces, hreads⟩ := h.reads before y mid buffer he hbuffer
  refine ⟨z, hz, data, hproduces, fun hkept => ?_⟩
  have hx : ¬ x.LetsGo id := hkept x (List.mem_append_right _ List.mem_cons_self)
  exact hkeeps data hx (hreads fun w hw => hkept w (List.mem_append_left _ hw))

theorem latest_snoc (h : Recorded id exchanges channel)
    (hx : ∀ buffer, x.reply.buffer? = some buffer →
      ∃ queue, x.before.queue? id = some queue ∧ buffer.number + 1 = queue.nextFrame)
    (y : Exchange) (hy : y ∈ exchanges ++ [x]) (buffer : LockedBuffer)
    (hbuffer : y.reply.buffer? = some buffer) :
    ∃ queue, y.before.queue? id = some queue ∧ buffer.number + 1 = queue.nextFrame := by
  rcases List.mem_append.mp hy with hy | hy
  · exact h.latest y hy buffer hbuffer
  · obtain rfl := List.mem_singleton.mp hy
    exact hx buffer hbuffer

/-- Nothing is locked by a call that answers with no buffer. -/
theorem lockedNumbers_of_none (exchanges : List Exchange) (hb : x.reply.buffer? = none) :
    lockedNumbers (exchanges ++ [x]) = lockedNumbers exchanges := by
  rw [lockedNumbers_snoc, hb]
  exact List.append_nil _

/-- The order of the frames lasts through a call by which none is produced or locked. -/
theorem ordered_still (h : Recorded id exchanges channel)
    (hs : channel.Still x.call x.reply after)
    (hfirst : SynchronousFirst id (exchanges ++ [x])) :
    after.queue.sync = true ∧
      lockedNumbers exchanges = List.range (lockedNumbers exchanges).length ∧
      (after.queue.abandoned = false → (lockedNumbers exchanges).length +
        after.queue.queued.isSome.toNat = after.queue.nextFrame) := by
  have hqueued (ha : after.queue.abandoned = false) :
      after.queue.queued = channel.queue.queued := by
    rcases hs.queued with hsame | ⟨_, hdead⟩
    · exact hsame
    · rw [ha] at hdead
      cases hdead
  rw [hs.nextFrame]
  rcases synchronousFirst_snoc hfirst with hfirst | ⟨hcall, hreply, hnone⟩
  · obtain ⟨hsync, hrange, hcount⟩ := h.ordered hfirst
    refine ⟨hs.sync hsync, hrange, fun ha => ?_⟩
    rw [hqueued ha]
    exact hcount (hs.abandoned ha)
  · obtain ⟨hzero, hempty, hno⟩ := h.nothing hnone
    refine ⟨hs.synced id hcall hreply, by rw [hno]; rfl, fun ha => ?_⟩
    rw [hqueued ha, hempty, hno, hzero]
    rfl

theorem still (h : Recorded id exchanges channel) (hon : x.call.isOn id = true)
    (hs : channel.Still x.call x.reply after) (hn : x.reply.number? = none)
    (hb : x.reply.buffer? = none) : Recorded id (exchanges ++ [x]) after := by
  have hlocked := lockedNumbers_of_none exchanges hb
  refine ⟨?_, ?_, ?_, ?_, ?_, ?_, ?_⟩
  · rw [producedNumbers_snoc, hn, hs.nextFrame, Option.toList_none, List.append_nil]
    exact h.produced
  · intro frame hq
    rcases hs.queued with hsame | ⟨hnone, _⟩
    · rw [hsame] at hq
      obtain ⟨hnumber, y, hy, hproduces⟩ := h.newest frame hq
      exact ⟨hs.nextFrame ▸ hnumber, y, List.mem_append_left _ hy, hproduces⟩
    · rw [hnone] at hq
      cases hq
  · rw [hlocked]
    exact h.increasing
  · intro n hm
    rw [hlocked] at hm
    have hpast := h.past n hm
    rw [hs.nextFrame]
    rcases hs.queued with hsame | ⟨hnone, _⟩
    · rwa [hsame]
    · rw [hnone]
      exact Nat.lt_of_le_of_lt (Nat.le_add_right _ _) hpast
  · intro before y rest buffer he hbuffer
    rcases snoc_cases he with ⟨_, rfl, _⟩ | ⟨mid, hmid, rfl⟩
    · rw [hb] at hbuffer
      cases hbuffer
    · exact h.reads_snoc (fun _ hx hr => hs.locked hon hx hr) hmid hbuffer
  · refine h.latest_snoc fun buffer hbuffer => ?_
    rw [hb] at hbuffer
    cases hbuffer
  · rw [hlocked]
    exact h.ordered_still hs

theorem produce (h : Recorded id exchanges channel)
    (hf : x.before.channels.find? id = some channel) {paint : Painter}
    (hcall : x.call = .produce id paint)
    (hreply : x.reply =
      .produced (.finished channel.queue.canvas (.ok channel.queue.nextFrame)))
    (halive : channel.queue.abandoned = false)
    (hfree : channel.queue.sync = true →
      channel.queue.locked = false ∧ channel.queue.queued = none) :
    Recorded id (exchanges ++ [x]) { channel with queue := { channel.queue with
      queued := some (channel.painted paint), nextFrame := channel.queue.nextFrame + 1 } } := by
  have hb : x.reply.buffer? = none := by rw [hreply]; rfl
  have hlocked := lockedNumbers_of_none exchanges hb
  refine ⟨?_, ?_, ?_, ?_, ?_, ?_, ?_⟩
  · rw [producedNumbers_snoc, hreply, h.produced, List.range_succ]
    rfl
  · intro frame hq
    obtain rfl := Option.some.inj hq
    refine ⟨rfl, x, List.mem_append_right _ List.mem_cons_self, channel.queue, paint, ?_, hcall,
      hreply, rfl, rfl⟩
    rw [Compositor.queue?, hf]
    rfl
  · rw [hlocked]
    exact h.increasing
  · intro n hm
    rw [hlocked] at hm
    exact Nat.succ_lt_succ (Nat.lt_of_le_of_lt (Nat.le_add_right _ _) (h.past n hm))
  · intro before y rest buffer he hbuffer
    rcases snoc_cases he with ⟨_, rfl, _⟩ | ⟨mid, hmid, rfl⟩
    · rw [hb] at hbuffer
      cases hbuffer
    · exact h.reads_snoc (fun _ _ hr => hr) hmid hbuffer
  · refine h.latest_snoc fun buffer hbuffer => ?_
    rw [hb] at hbuffer
    cases hbuffer
  · intro hfirst
    rw [hlocked]
    rcases synchronousFirst_snoc hfirst with hfirst | ⟨hsync, _⟩
    · obtain ⟨hsync, hrange, hcount⟩ := h.ordered hfirst
      have hnext := hcount halive
      rw [(hfree hsync).2] at hnext
      exact ⟨hsync, hrange, fun _ => congrArg (· + 1) hnext⟩
    · rw [hcall] at hsync
      cases hsync

theorem lock (h : Recorded id exchanges channel) (hslot : channel.Slotted)
    (hf : x.before.channels.find? id = some channel) {frame : QueuedFrame}
    (hbuffer : x.reply.buffer? = some (Reader.describe frame))
    (hq : channel.queue.queued = some frame) (hr : channel.reader = some ⟨none⟩) :
    Recorded id (exchanges ++ [x]) { channel with
      queue := { channel.queue with queued := none, locked := true }
      reader := some ⟨some frame.data⟩ } := by
  have hreply : ∃ buffer, x.reply = .locked (.ok buffer) := by
    cases hx : x.reply with
    | locked result =>
      cases result with
      | ok buffer => exact ⟨buffer, rfl⟩
      | error status => rw [hx] at hbuffer; cases hbuffer
    | done | told | numbered | described | noticed | produced => rw [hx] at hbuffer; cases hbuffer
  obtain ⟨buffer, hreply⟩ := hreply
  obtain ⟨hnumber, y, hy, hproduces⟩ := h.newest frame hq
  have hlocked : lockedNumbers (exchanges ++ [x]) = lockedNumbers exchanges ++ [frame.number] := by
    rw [lockedNumbers_snoc, hbuffer]
    rfl
  have hpast (n : Nat) (hm : n ∈ lockedNumbers exchanges) : n < frame.number := by
    have hlt := h.past n hm
    rw [hq] at hlt
    simp only [Option.isSome_some, Bool.toNat_true] at hlt
    omega
  refine ⟨?_, nofun, ?_, ?_, ?_, ?_, ?_⟩
  · rw [producedNumbers_snoc, hreply]
    exact (List.append_nil _).trans h.produced
  · rw [hlocked, List.pairwise_append]
    refine ⟨h.increasing, List.pairwise_singleton _ _, fun n hm m hm' => ?_⟩
    rw [List.mem_singleton.mp hm']
    exact hpast n hm
  · intro n hm
    rw [hlocked] at hm
    simp only [Option.isSome_none, Bool.toNat_false, Nat.add_zero]
    rcases List.mem_append.mp hm with hm | hm
    · have hlt := hpast n hm
      omega
    · rw [List.mem_singleton.mp hm]
      omega
  · intro before z rest buffer' he hbuffer'
    rcases snoc_cases he with ⟨rfl, rfl, rfl⟩ | ⟨mid, hmid, rfl⟩
    · obtain rfl := Option.some.inj (hbuffer.symm.trans hbuffer')
      exact ⟨y, hy, frame.data, hproduces, fun _ => rfl⟩
    · refine h.reads_snoc (fun data _ hdata => ?_) hmid hbuffer'
      -- a buffer that was not given back could not be followed by another
      rw [hr] at hdata
      cases hdata
  · refine h.latest_snoc fun buffer' hbuffer' => ?_
    obtain rfl := Option.some.inj (hbuffer.symm.trans hbuffer')
    exact ⟨channel.queue, by rw [Compositor.queue?, hf]; rfl, hnumber⟩
  · intro hfirst
    rcases synchronousFirst_snoc hfirst with hfirst | ⟨_, htold, _⟩
    · obtain ⟨hsync, hrange, hcount⟩ := h.ordered hfirst
      have halive : channel.queue.abandoned = false := by
        refine Bool.eq_false_iff.mpr fun ha => ?_
        rw [hslot.abandoned ha] at hq
        cases hq
      have hnext := hcount halive
      rw [hq] at hnext
      simp only [Option.isSome_some, Bool.toNat_true] at hnext
      have hlength : frame.number = (lockedNumbers exchanges).length := by omega
      rw [hlocked, List.length_append, List.length_singleton, List.range_succ, ← hrange, hlength]
      exact ⟨hsync, rfl, fun _ => hnext⟩
    · rw [hreply] at htold
      cases htold

theorem snoc (h : Recorded id exchanges channel) (hslot : channel.Slotted)
    (hf : x.before.channels.find? id = some channel) (hon : x.call.isOn id = true)
    (hs : channel.Step x.call x.reply after) : Recorded id (exchanges ++ [x]) after := by
  cases hn : x.reply.number? with
  | some n =>
    obtain ⟨other, paint, hcall, hreply, halive, hfree, rfl⟩ := hs.of_number? hn
    rw [hcall] at hon
    obtain rfl := of_decide_eq_true hon
    exact h.produce hf hcall hreply halive hfree
  | none =>
    cases hb : x.reply.buffer? with
    | some buffer =>
      obtain ⟨frame, rfl, hq, hr, rfl⟩ := hs.of_buffer? hb
      exact h.lock hslot hf hb hq hr
    | none => exact h.still hon (hs.still hslot hn hb) hn hb

end Recorded

namespace Call

variable {c d : Compositor} {id : QueueId}

/-- What is known of a new queue after calls on it. -/
theorem run_recorded (hnew : c.newQueue = (.ok id, d)) (calls : List Call)
    (hcalls : ∀ call ∈ calls, call.isOn id = true) :
    ∃ channel, (run calls d).channels.find? id = some channel ∧ channel.Slotted ∧
      Recorded id (exchanges calls d) channel := by
  induction calls using List.reverseRecOn with
  | nil =>
    rw [VirtualOutput.newQueue_eq] at hnew
    split at hnew
    next => cases hnew
    next =>
      cases hnew
      exact ⟨_, c.opened_find? VirtualOutput.newChannel, .fresh, .fresh _⟩
  | append_singleton calls call ih =>
    obtain ⟨channel, hf, hslot, hrecorded⟩ :=
      ih fun call hc => hcalls call (List.mem_append_left _ hc)
    have hon := hcalls call (List.mem_append_right _ List.mem_cons_self)
    obtain ⟨after, hafter, hs, _⟩ := does_of_isOn hf hon fun _ => hslot.held
    rw [run_snoc, exchanges_snoc]
    exact ⟨after, hafter, hslot.step hs,
      hrecorded.snoc (x := ⟨run calls d, call⟩) hslot hf hon hs⟩

/-- The slot of a queue, whatever calls are made on it: frames are numbered as they are produced,
each is locked in the order of the numbers, as it was painted with the settings of its time, and
while it is locked its data stays. In a queue that was synchronous from the first frame on none is
left out; in any queue the newest one is locked. -/
theorem slot_discipline (hnew : c.newQueue = (.ok id, d)) (calls : List Call)
    (hcalls : ∀ call ∈ calls, call.isOn id = true) :
    let e := run calls d
    let xs := exchanges calls d
    ∃ channel, e.channels.find? id = some channel ∧
      channel.queue.nextFrame = (producedNumbers xs).length ∧
      producedNumbers xs = List.range channel.queue.nextFrame ∧
      (channel.queue.locked = true ↔
        ∃ reader, channel.reader = some reader ∧ reader.data.isSome = true) ∧
      (channel.queue.abandoned = true → channel.queue.queued = none) ∧
      (channel.queue.sync = true →
        ¬ (channel.queue.queued.isSome = true ∧ channel.queue.locked = true)) ∧
      (lockedNumbers xs).Pairwise (· < ·) ∧
      (∀ before x after buffer, xs = before ++ x :: after → x.reply.buffer? = some buffer →
        ∃ y ∈ before, ∃ data, y.Produces id ⟨buffer.canvas, buffer.number, data⟩ ∧
          ((∀ z ∈ after, ¬ z.LetsGo id) → e.lockedData id = data)) ∧
      (SynchronousFirst id xs → lockedNumbers xs = List.range (lockedNumbers xs).length) ∧
      ∀ x ∈ xs, ∀ buffer, x.reply.buffer? = some buffer →
        ∃ queue, x.before.queue? id = some queue ∧ buffer.number + 1 = queue.nextFrame := by
  intro e xs
  obtain ⟨channel, hf, hslot, h⟩ := run_recorded hnew calls hcalls
  refine ⟨channel, hf, ?_, h.produced, ?_, hslot.abandoned, ?_, h.increasing, ?_,
    fun hfirst => (h.ordered hfirst).2.1, h.latest⟩
  · rw [h.produced, List.length_range]
  · rw [hslot.locked, Option.any_eq_true]
  · rintro hs ⟨hqueued, hlocked⟩
    rw [hslot.single hs hqueued] at hlocked
    cases hlocked
  · intro before x after buffer he hbuffer
    obtain ⟨y, hy, data, hproduces, hreads⟩ := h.reads before x after buffer he hbuffer
    refine ⟨y, hy, data, hproduces, fun hkept => ?_⟩
    rw [Compositor.lockedData, hf, Option.bind_some, hreads hkept]
    rfl

/-- The first frame of a synchronous queue. -/
theorem slot_discipline_first :
    let calls : List Call := [.disableAsync 1, .setSize 1 4 4, .newReader 1 1,
      .produce 1 fun _ data => data.map fun _ => 7, .lock 1]
    let d := Compositor.standard.newQueue.2
    ∃ channel, (run calls d).channels.find? 1 = some channel ∧
      channel.queue.nextFrame = (producedNumbers (exchanges calls d)).length ∧
      lockedNumbers (exchanges calls d) =
        List.range (lockedNumbers (exchanges calls d)).length := by
  intro calls d
  have hnew : Compositor.standard.newQueue = (.ok 1, d) := rfl
  obtain ⟨channel, hf, hnext, _, _, _, _, _, _, hordered, _⟩ :=
    slot_discipline hnew calls (by decide)
  refine ⟨channel, hf, hnext, hordered ?_⟩
  exact ⟨[], ⟨d, .disableAsync 1⟩, _, rfl, rfl, rfl, nofun⟩

end Call

end ScreenCapture
