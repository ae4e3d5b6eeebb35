import ScreenCapture.Proofs.SlotDiscipline

namespace ScreenCapture

/-- A frame that is being drawn, from the time its call found the slot free. -/
structure Drawing where
  queue : QueueId
  canvas : Canvas
  /-- Number of the frame that was to be queued next at that time. -/
  since : Nat

/-- A compositor, and the threads that draw for it. The call by which a thread produces a frame has
two sections, and between them anything else may happen. -/
structure Studio where
  compositor : Compositor
  drawing : Nat → Option Drawing

namespace Studio

inductive Turn
  | call (call : Call)
  /-- A thread looks for a buffer to draw in. -/
  | begin (thread : Nat) (queue : QueueId)
  /-- It queues what it has drawn meanwhile. -/
  | finish (thread : Nat) (paint : Painter)

/-- Nobody draws. -/
def still (c : Compositor) : Studio := ⟨c, fun _ => none⟩

def setDrawing (s : Studio) (thread : Nat) (drawing : Option Drawing) : Studio :=
  { s with drawing := fun other => if other = thread then drawing else s.drawing other }

def begin (s : Studio) (thread : Nat) (id : QueueId) : Reply × Studio :=
  match s.drawing thread, s.compositor.queue? id with
  | some _, _ => (.done, s)
  | none, none => (.produced (.refused .deadObject), s)
  | none, some queue =>
    match queue.slot with
    | .refused status => (.produced (.refused status), s)
    | .busy => (.produced .blocked, s)
    | .free canvas => (.done, s.setDrawing thread (some ⟨id, canvas, queue.nextFrame⟩))

/-- The slot is not looked at again. -/
def finish (s : Studio) (thread : Nat) (paint : Painter) : Reply × Studio :=
  match s.drawing thread with
  | none => (.done, s)
  | some ⟨id, canvas, _⟩ =>
    match s.compositor.queue? id with
    | none => (.produced (.finished canvas (.error .deadObject)), s.setDrawing thread none)
    | some queue =>
      match queue.commit canvas (.mk fun _ => paint canvas canvas.blank) with
      | .error status => (.produced (.finished canvas (.error status)), s.setDrawing thread none)
      | .ok commit =>
        (.produced (.finished canvas (.ok commit.number)),
          { s.setDrawing thread none with
            compositor := (s.compositor.setQueue id commit.queue).announce commit.announce })

def turn (s : Studio) : Turn → Reply × Studio
  | .call call =>
    ((call.perform s.compositor).1, { s with compositor := (call.perform s.compositor).2 })
  | .begin thread id => s.begin thread id
  | .finish thread paint => s.finish thread paint

def run (turns : List Turn) (s : Studio) : Studio := turns.foldl (fun s t => (s.turn t).2) s

/-- A turn, and the studio in which it is taken. -/
structure Moment where
  before : Studio
  turn : Turn

namespace Moment

def reply (x : Moment) : Reply := (x.before.turn x.turn).1

def after (x : Moment) : Studio := (x.before.turn x.turn).2

end Moment

def moments : List Turn → Studio → List Moment
  | [], _ => []
  | t :: rest, s => ⟨s, t⟩ :: moments rest (s.turn t).2

theorem run_snoc (turns : List Turn) (t : Turn) (s : Studio) :
    run (turns ++ [t]) s = ((run turns s).turn t).2 := by
  simp [run]

theorem moments_snoc (turns : List Turn) (t : Turn) (s : Studio) :
    moments (turns ++ [t]) s = moments turns s ++ [⟨run turns s, t⟩] := by
  induction turns generalizing s with
  | nil => rfl
  | cons first rest ih =>
    rw [List.cons_append, moments, ih]
    rfl

/-- The two sections at one go are the call as a compositor answers it. -/
theorem finish_begin {s : Studio} {thread : Nat} {id : QueueId} {canvas : Canvas} {queue : Queue}
    (hd : s.drawing thread = none) (hq : s.compositor.queue? id = some queue)
    (hfree : queue.slot = .free canvas) (paint : Painter) :
    let t := (s.begin thread id).2
    (t.finish thread paint).1 = ((Call.produce id paint).perform s.compositor).1 ∧
      (t.finish thread paint).2.compositor =
        ((Call.produce id paint).perform s.compositor).2 := by
  obtain ⟨channel, hf, rfl⟩ := Option.map_eq_some_iff.mp hq
  obtain ⟨halive, _, rfl⟩ := Queue.slot_eq_free hfree
  have hbegin : s.begin thread id =
      (.done, s.setDrawing thread (some ⟨id, channel.queue.canvas, channel.queue.nextFrame⟩)) := by
    simp only [begin, hd, hq, hfree]
  have hdrawn : (s.begin thread id).2.drawing thread =
      some ⟨id, channel.queue.canvas, channel.queue.nextFrame⟩ := by
    rw [hbegin]
    exact if_pos rfl
  have hsame : (s.begin thread id).2.compositor = s.compositor := by rw [hbegin]; rfl
  simp only [finish, hdrawn, hsame, hq, Queue.commit_of_alive halive, Call.perform_produce hf,
    Compositor.draw, hfree, true_and]

/-- Whether a turn is about the queue. -/
def Turn.isOn (id : QueueId) : Turn → Bool
  | .call asked => asked.isOn id
  | .begin _ queue => queue = id
  | .finish _ _ => true

namespace Moment

/-- No frame was queued while the one that is queued now was drawn. -/
def Undisturbed (x : Moment) : Prop :=
  ∀ thread paint d queue, x.turn = .finish thread paint → x.before.drawing thread = some d →
    x.before.compositor.queue? d.queue = some queue → queue.nextFrame = d.since

/-- A frame is queued in place of none, and not beside one that is locked. -/
structure Proper (x : Moment) (id : QueueId) : Prop where
  keeps (n : Nat) (queue : Queue) : x.reply.number? = some n →
    x.before.compositor.queue? id = some queue → queue.queued = none
  single (queue : Queue) : x.after.compositor.queue? id = some queue →
    ¬ (queue.queued.isSome = true ∧ queue.locked = true)

end Moment

/-- Numbers of the frames that were produced. -/
def producedIn (xs : List Moment) : List Nat := xs.filterMap fun x => x.reply.number?

/-- Numbers of the frames that were locked, in the order of the locks. -/
def lockedIn (xs : List Moment) : List Nat :=
  xs.filterMap fun x => x.reply.buffer?.map (·.number)

theorem producedIn_snoc (xs : List Moment) (x : Moment) :
    producedIn (xs ++ [x]) = producedIn xs ++ x.reply.number?.toList := by
  rw [producedIn, List.filterMap_append]
  cases h : x.reply.number? <;> simp [h, producedIn]

theorem lockedIn_snoc (xs : List Moment) (x : Moment) :
    lockedIn (xs ++ [x]) = lockedIn xs ++ (x.reply.buffer?.map (·.number)).toList := by
  rw [lockedIn, List.filterMap_append]
  cases h : x.reply.buffer? <;> simp [h, lockedIn]

end Studio

/-- A step that locks nothing leaves a slot that is not locked so. -/
theorem Channel.Step.not_locked {channel after : Channel} {call : Call} {reply : Reply}
    (hs : channel.Step call reply after) (hb : reply.buffer? = none)
    (hl : channel.queue.locked = false) : after.queue.locked = false := by
  cases hs with
  | locked => cases hb
  | unlocked => rfl
  | @dropped _ reader =>
    obtain ⟨_ | data⟩ := reader
    · exact hl
    · rfl
  | kept | synced | sized | formatted | attached | produced | disconnected => exact hl

namespace Studio

/-- A synchronous queue from which no frame was lost, with what was produced in it and locked. -/
structure Lossless (s : Studio) (id : QueueId) (produced locked : List Nat) (channel : Channel) :
    Prop where
  found : s.compositor.channels.find? id = some channel
  slotted : channel.Slotted
  sync : channel.queue.sync = true
  newest (frame : QueuedFrame) : channel.queue.queued = some frame →
    frame.number + 1 = channel.queue.nextFrame
  produced : produced = List.range channel.queue.nextFrame
  ordered : locked = List.range locked.length
  all : channel.queue.abandoned = false →
    locked.length + channel.queue.queued.isSome.toNat = channel.queue.nextFrame
  /-- A slot that was found free stays free until a frame is queued. -/
  drawing (thread : Nat) (d : Drawing) : s.drawing thread = some d → d.queue = id ∧
    (d.since < channel.queue.nextFrame ∨ d.since = channel.queue.nextFrame ∧
      channel.queue.queued = none ∧ channel.queue.locked = false)

namespace Lossless

variable {s : Studio} {id : QueueId} {produced locked : List Nat} {channel : Channel}

theorem queue? (h : s.Lossless id produced locked channel) :
    s.compositor.queue? id = some channel.queue := by
  rw [Compositor.queue?, h.found]
  rfl

theorem queue (h : s.Lossless id produced locked channel) {t : Studio} (frame : QueuedFrame)
    (hnumber : frame.number = channel.queue.nextFrame)
    (halive : channel.queue.abandoned = false)
    (hqueued : channel.queue.queued = none) (hfree : channel.queue.locked = false)
    (hf : t.compositor.channels.find? id = some { channel with queue := { channel.queue with
      queued := some frame, nextFrame := channel.queue.nextFrame + 1 } })
    (hdrawing : ∀ thread d, t.drawing thread = some d → s.drawing thread = some d) :
    t.Lossless id (produced ++ [channel.queue.nextFrame]) locked { channel with
      queue := { channel.queue with
        queued := some frame, nextFrame := channel.queue.nextFrame + 1 } } where
  found := hf
  slotted := by
    have hslot := h.slotted
    refine ⟨hslot.held, hslot.attached, hslot.locked, fun ha => ?_, fun _ _ => hfree⟩
    rw [halive] at ha
    cases ha
  sync := h.sync
  newest frame' hq := by
    obtain rfl := Option.some.inj hq
    exact congrArg (· + 1) hnumber
  produced := by rw [h.produced, List.range_succ]
  ordered := h.ordered
  all _ := by
    have hall := h.all halive
    rw [hqueued] at hall
    exact congrArg (· + 1) hall
  drawing thread d hd := by
    obtain ⟨hqueue, hsince⟩ := h.drawing thread d (hdrawing thread d hd)
    refine ⟨hqueue, .inl ?_⟩
    simp only
    omega

theorem still (h : s.Lossless id produced locked channel) {call : Call} {after : Channel}
    (hs : channel.Step call (call.perform s.compositor).1 after)
    (hf : (call.perform s.compositor).2.channels.find? id = some after)
    (hn : (call.perform s.compositor).1.number? = none)
    (hb : (call.perform s.compositor).1.buffer? = none) :
    (s.turn (.call call)).2.Lossless id produced locked after := by
  have hstill := hs.still h.slotted hn hb
  have hqueued (ha : after.queue.abandoned = false) :
      after.queue.queued = channel.queue.queued := by
    rcases hstill.queued with hsame | ⟨_, hdead⟩
    · exact hsame
    · rw [ha] at hdead
      cases hdead
  refine ⟨hf, h.slotted.step hs, hstill.sync h.sync, fun frame hq => ?_, ?_, h.ordered,
    fun ha => ?_, fun thread d hd => ?_⟩
  · rw [hstill.nextFrame]
    rcases hstill.queued with hsame | ⟨hnone, _⟩
    · exact h.newest frame (hsame.symm.trans hq)
    · rw [hnone] at hq
      cases hq
  · rw [hstill.nextFrame]
    exact h.produced
  · rw [hqueued ha, hstill.nextFrame]
    exact h.all (hstill.abandoned ha)
  · rw [hstill.nextFrame]
    obtain ⟨hqueue, hbefore | ⟨hsince, hnone, hfree⟩⟩ := h.drawing thread d hd
    · exact ⟨hqueue, .inl hbefore⟩
    · refine ⟨hqueue, .inr ⟨hsince, ?_, hs.not_locked hb hfree⟩⟩
      rcases hstill.queued with hsame | ⟨hempty, _⟩
      · exact hsame.trans hnone
      · exact hempty

theorem lock (h : s.Lossless id produced locked channel) {call : Call} {frame : QueuedFrame}
    (hs : channel.Step call (call.perform s.compositor).1 { channel with
      queue := { channel.queue with queued := none, locked := true }
      reader := some ⟨some frame.data⟩ })
    (hf : (call.perform s.compositor).2.channels.find? id = some { channel with
      queue := { channel.queue with queued := none, locked := true }
      reader := some ⟨some frame.data⟩ })
    (hq : channel.queue.queued = some frame) :
    (s.turn (.call call)).2.Lossless id produced (locked ++ [frame.number]) { channel with
      queue := { channel.queue with queued := none, locked := true }
      reader := some ⟨some frame.data⟩ } := by
  have halive : channel.queue.abandoned = false := by
    refine Bool.eq_false_iff.mpr fun ha => ?_
    rw [h.slotted.abandoned ha] at hq
    cases hq
  have hall := h.all halive
  have hnewest := h.newest frame hq
  rw [hq] at hall
  simp only [Option.isSome_some, Bool.toNat_true] at hall
  -- all frames before the queued one were locked
  have hnumber : frame.number = locked.length := by omega
  have hlength : (locked ++ [frame.number]).length = locked.length + 1 := List.length_append
  refine ⟨hf, h.slotted.step hs, h.sync, nofun, h.produced, ?_, fun _ => ?_, fun thread d hd => ?_⟩
  · rw [hlength, List.range_succ, ← h.ordered, hnumber]
  · rw [hlength]
    exact hall
  · obtain ⟨hqueue, hbefore | ⟨_, hnone, _⟩⟩ := h.drawing thread d hd
    · exact ⟨hqueue, .inl hbefore⟩
    · rw [hq] at hnone
      cases hnone

theorem call (h : s.Lossless id produced locked channel) {call : Call}
    (hon : call.isOn id = true) : ∃ after,
      (s.turn (.call call)).2.Lossless id
        (produced ++ (call.perform s.compositor).1.number?.toList)
        (locked ++ ((call.perform s.compositor).1.buffer?.map (·.number)).toList) after ∧
      ∀ n, (call.perform s.compositor).1.number? = some n → channel.queue.queued = none := by
  obtain ⟨after, hf, hs, _⟩ := Call.does_of_isOn h.found hon fun _ => h.slotted.held
  cases hn : (call.perform s.compositor).1.number? with
  | some n =>
    obtain ⟨_, paint, _, hreply, halive, hfree, rfl⟩ := hs.of_number? hn
    obtain ⟨hlocked, hqueued⟩ := hfree h.sync
    rw [hreply] at hn
    obtain rfl : channel.queue.nextFrame = n := Option.some.inj hn
    have hbuffer : (call.perform s.compositor).1.buffer? = none := by rw [hreply]; rfl
    rw [hbuffer, Option.map_none, Option.toList_none, List.append_nil, Option.toList_some]
    exact ⟨_, h.queue (channel.painted paint) rfl halive hqueued hlocked hf fun _ _ hd => hd,
      fun _ _ => hqueued⟩
  | none =>
    rw [Option.toList_none, List.append_nil]
    cases hb : (call.perform s.compositor).1.buffer? with
    | some buffer =>
      obtain ⟨frame, rfl, hq, _, rfl⟩ := hs.of_buffer? hb
      exact ⟨_, h.lock hs hf hq, nofun⟩
    | none =>
      rw [Option.map_none, Option.toList_none, List.append_nil]
      exact ⟨after, h.still hs hf hn hb, nofun⟩

theorem begin (h : s.Lossless id produced locked channel) (thread : Nat) :
    (s.turn (.begin thread id)).2.Lossless id produced locked channel ∧
      (s.turn (.begin thread id)).1.number? = none ∧
      (s.turn (.begin thread id)).1.buffer? = none := by
  simp only [turn, Studio.begin, h.queue?]
  cases s.drawing thread with
  | some d => exact ⟨h, rfl, rfl⟩
  | none =>
    simp only
    cases hslot : channel.queue.slot with
    | refused status => exact ⟨h, rfl, rfl⟩
    | busy => exact ⟨h, rfl, rfl⟩
    | free canvas =>
      obtain ⟨_, hfree, rfl⟩ := Queue.slot_eq_free hslot
      obtain ⟨hlocked, hqueued⟩ := hfree h.sync
      refine ⟨⟨h.found, h.slotted, h.sync, h.newest, h.produced, h.ordered, h.all, ?_⟩, rfl, rfl⟩
      intro other d hd
      simp only [setDrawing] at hd
      split at hd
      next =>
        obtain rfl := Option.some.inj hd
        exact ⟨rfl, .inr ⟨rfl, hqueued, hlocked⟩⟩
      next => exact h.drawing other d hd

theorem finish (h : s.Lossless id produced locked channel) (thread : Nat) (paint : Painter)
    (hu : Moment.Undisturbed ⟨s, .finish thread paint⟩) : ∃ after,
      (s.turn (.finish thread paint)).2.Lossless id
        (produced ++ (s.turn (.finish thread paint)).1.number?.toList) locked after ∧
      (s.turn (.finish thread paint)).1.buffer? = none ∧
      ∀ n, (s.turn (.finish thread paint)).1.number? = some n → channel.queue.queued = none := by
  simp only [turn, Studio.finish]
  cases hd : s.drawing thread with
  | none => exact ⟨channel, (List.append_nil produced).symm ▸ h, rfl, nofun⟩
  | some d =>
    have hgone (other : Nat) (e : Drawing)
        (he : (s.setDrawing thread none).drawing other = some e) : s.drawing other = some e := by
      simp only [setDrawing] at he
      split at he
      next => cases he
      next => exact he
    obtain ⟨queue, canvas, since⟩ := d
    obtain ⟨rfl, hsince⟩ := h.drawing thread _ hd
    have hnext := hu thread paint _ channel.queue rfl hd h.queue?
    simp only at hsince hnext
    obtain ⟨hqueued, hfree⟩ : channel.queue.queued = none ∧ channel.queue.locked = false := by
      rcases hsince with hbefore | ⟨_, hfree⟩
      · omega
      · exact hfree
    simp only [h.queue?]
    cases halive : channel.queue.abandoned with
    | true =>
      have hdead : channel.queue.commit canvas (.mk fun _ => paint canvas canvas.blank) =
          .error .deadObject := if_pos halive
      rw [hdead]
      refine ⟨channel, ?_, rfl, nofun⟩
      rw [show (Reply.number? (.produced (.finished canvas (.error .deadObject)))).toList = []
        from rfl, List.append_nil]
      exact ⟨h.found, h.slotted, h.sync, h.newest, h.produced, h.ordered, h.all,
        fun other e he => h.drawing other e (hgone other e he)⟩
    | false =>
      rw [Queue.commit_of_alive halive]
      refine ⟨_, h.queue ⟨canvas, channel.queue.nextFrame, .mk fun _ => paint canvas canvas.blank⟩
        rfl halive hqueued hfree ?_ hgone, rfl, fun _ _ => hqueued⟩
      rw [Compositor.announce_channels]
      exact Compositor.find?_modifyChannel h.found _

theorem turn (h : s.Lossless id produced locked channel) {t : Turn} (hon : t.isOn id = true)
    (hu : Moment.Undisturbed ⟨s, t⟩) : ∃ after,
      (s.turn t).2.Lossless id (produced ++ (s.turn t).1.number?.toList)
        (locked ++ ((s.turn t).1.buffer?.map (·.number)).toList) after ∧
      Moment.Proper ⟨s, t⟩ id := by
  have hproper {after : Channel} {produced locked : List Nat}
      (hafter : (s.turn t).2.Lossless id produced locked after)
      (hkeeps : ∀ n, (s.turn t).1.number? = some n → channel.queue.queued = none) :
      Moment.Proper ⟨s, t⟩ id := by
    refine ⟨fun n queue hn hq => ?_, fun queue hq => ?_⟩
    · obtain rfl := Option.some.inj (h.queue?.symm.trans hq)
      exact hkeeps n hn
    · obtain rfl := Option.some.inj (hafter.queue?.symm.trans hq)
      rintro ⟨hqueued, hlocked⟩
      rw [hafter.slotted.single hafter.sync hqueued] at hlocked
      cases hlocked
  cases t with
  | call call =>
    obtain ⟨after, hafter, hkeeps⟩ := h.call hon
    exact ⟨after, hafter, hproper hafter hkeeps⟩
  | begin thread queue =>
    obtain rfl := of_decide_eq_true hon
    obtain ⟨hafter, hn, hb⟩ := h.begin thread
    rw [hn, hb, Option.map_none, Option.toList_none, List.append_nil, List.append_nil]
    exact ⟨channel, hafter, hproper hafter fun n hm => absurd (hn.symm.trans hm) nofun⟩
  | finish thread paint =>
    obtain ⟨after, hafter, hb, hkeeps⟩ := h.finish thread paint hu
    rw [hb, Option.map_none, Option.toList_none, List.append_nil]
    exact ⟨after, hafter, hproper hafter hkeeps⟩

theorem run (h : s.Lossless id [] [] channel) (turns : List Turn)
    (hon : ∀ t ∈ turns, t.isOn id = true) (hu : ∀ x ∈ moments turns s, x.Undisturbed) :
    (∃ after, (run turns s).Lossless id (producedIn (moments turns s))
      (lockedIn (moments turns s)) after) ∧ ∀ x ∈ moments turns s, x.Proper id := by
  induction turns using List.reverseRecOn with
  | nil => exact ⟨⟨channel, h⟩, nofun⟩
  | append_singleton turns t ih =>
    rw [moments_snoc] at hu
    obtain ⟨⟨after, hafter⟩, hproper⟩ := ih
      (fun t ht => hon t (List.mem_append_left _ ht))
      fun x hx => hu x (List.mem_append_left _ hx)
    obtain ⟨last, hlast, hx⟩ := hafter.turn (hon t (List.mem_append_right _ List.mem_cons_self))
      (hu _ (List.mem_append_right _ List.mem_cons_self))
    rw [run_snoc, moments_snoc, producedIn_snoc, lockedIn_snoc]
    refine ⟨⟨last, hlast⟩, fun x hm => ?_⟩
    rcases List.mem_append.mp hm with hm | hm
    · exact hproper x hm
    · obtain rfl := List.mem_singleton.mp hm
      exact hx

end Lossless

theorem lossless_synchronous {c d : Compositor} {id : QueueId} (hnew : c.newQueue = (.ok id, d))
    {setup : List Call} (hsetup : ∀ call ∈ setup, call.isOn id = true)
    (hnone : ∀ x ∈ Call.exchanges setup d, x.reply.number? = none)
    (hsync : ((Call.disableAsync id).perform (Call.run setup d)).1 = .told (.ok ())) :
    ∃ channel, (still ((Call.disableAsync id).perform (Call.run setup d)).2).Lossless id [] []
      channel := by
  obtain ⟨channel, hf, hslot, hrecorded⟩ := Call.run_recorded hnew setup hsetup
  obtain ⟨hzero, hempty, _⟩ := hrecorded.nothing hnone
  obtain ⟨after, hafter, hs, _⟩ := Call.does_disableAsync hf
  rw [hsync] at hs
  have hstill := hs.still hslot rfl rfl
  have hnext : after.queue.nextFrame = 0 := hstill.nextFrame.trans hzero
  have hqueued : after.queue.queued = none := by
    rcases hstill.queued with hsame | ⟨hnone, _⟩
    · exact hsame.trans hempty
    · exact hnone
  refine ⟨after, hafter, hslot.step hs, hstill.synced id rfl rfl, fun frame hq => ?_, ?_, rfl,
    fun _ => ?_, nofun⟩
  · rw [hqueued] at hq
    cases hq
  · rw [hnext]
    rfl
  · rw [hqueued, hnext]
    rfl

/-- A queue that was made synchronous before its first frame keeps every frame until it is locked,
whatever is done with the queue while a frame is drawn, provided that no other frame is queued
meanwhile: frames are locked in the order in which they were produced, and none is left out. -/
theorem synchronous_lossless {c d : Compositor} {id : QueueId} (hnew : c.newQueue = (.ok id, d))
    (setup : List Call) (hsetup : ∀ call ∈ setup, call.isOn id = true)
    (hnone : ∀ x ∈ Call.exchanges setup d, x.reply.number? = none)
    (hsync : ((Call.disableAsync id).perform (Call.run setup d)).1 = .told (.ok ()))
    (turns : List Turn) (hturns : ∀ t ∈ turns, t.isOn id = true)
    (hu : ∀ x ∈ moments turns (still ((Call.disableAsync id).perform (Call.run setup d)).2),
      x.Undisturbed) :
    let s := still ((Call.disableAsync id).perform (Call.run setup d)).2
    let xs := moments turns s
    (∀ x ∈ xs, x.Proper id) ∧
      ∃ queue, (run turns s).compositor.queue? id = some queue ∧
        producedIn xs = List.range queue.nextFrame ∧
        lockedIn xs = List.range (lockedIn xs).length ∧
        (queue.abandoned = false →
          (lockedIn xs).length + queue.queued.isSome.toNat = queue.nextFrame) := by
  intro s xs
  obtain ⟨channel, h⟩ := lossless_synchronous hnew hsetup hnone hsync
  obtain ⟨⟨after, hafter⟩, hproper⟩ := h.run turns hturns hu
  exact ⟨hproper, after.queue, hafter.queue?, hafter.produced, hafter.ordered, hafter.all⟩

/-- A frame that waits while the queue is given another size is locked all the same. -/
theorem synchronous_lossless_resized :
    let s := still ((Call.disableAsync 1).perform Compositor.standard.newQueue.2).2
    let turns : List Turn := [.call (.newReader 1 1), .begin 0 1, .call (.setSize 1 4 4),
      .finish 0 fun _ data => data, .begin 1 1, .call (.lock 1)]
    ∃ queue, (run turns s).compositor.queue? 1 = some queue ∧ queue.abandoned = false ∧
      lockedIn (moments turns s) = List.range (lockedIn (moments turns s)).length ∧
      (lockedIn (moments turns s)).length + queue.queued.isSome.toNat = queue.nextFrame := by
  intro s turns
  have hnew : Compositor.standard.newQueue = (.ok 1, Compositor.standard.newQueue.2) := rfl
  have hu : ∀ x ∈ moments turns s, x.Undisturbed := by
    intro x hx thread paint d queue ht hd hq
    simp only [moments, turns, List.mem_cons, List.not_mem_nil, or_false] at hx
    obtain rfl | rfl | rfl | rfl | rfl | rfl := hx <;> cases ht
    obtain rfl := Option.some.inj hd
    obtain rfl := Option.some.inj hq
    rfl
  obtain ⟨_, queue, hq, _, hordered, hall⟩ :=
    synchronous_lossless hnew [] nofun nofun rfl turns (by decide) hu
  have halive : queue.abandoned = false := by
    obtain rfl := Option.some.inj hq
    rfl
  exact ⟨queue, hq, halive, hordered, hall halive⟩

/-- Two frames that are drawn at the same time are one too many: the second is queued in place of
the first, which is never locked, or beside it while it is locked. Renderers that share a surface do
that to each other. -/
theorem synchronous_overrun :
    let d := ((Call.disableAsync 1).perform Compositor.standard.newQueue.2).2
    let blank : Painter := fun _ data => data
    let replaced : List Turn := [.call (.newReader 1 1), .begin 0 1, .begin 1 1, .finish 0 blank,
      .finish 1 blank, .call (.lock 1)]
    let crowded : List Turn := [.call (.newReader 1 1), .begin 0 1, .begin 1 1, .finish 0 blank,
      .call (.lock 1), .finish 1 blank]
    let p : Projection := ⟨.rotation0, .ofSize 1 1, .ofSize 1 1⟩
    let shared : List Call := [.newReader 1 1, .newDisplay, .newDisplay, .transact 2 1 p,
      .transact 3 1 p]
    Compositor.standard.newQueue.1 = .ok 1 ∧
      ((Call.disableAsync 1).perform Compositor.standard.newQueue.2).1 = .told (.ok ()) ∧
      (∀ t ∈ replaced ++ crowded, t.isOn 1 = true) ∧
      producedIn (moments replaced (still d)) = [0, 1] ∧
      lockedIn (moments replaced (still d)) = [1] ∧
      ((run replaced (still d)).compositor.queue? 1).map (fun q => (q.queued.isSome, q.abandoned)) =
        some (false, false) ∧
      ((run crowded (still d)).compositor.queue? 1).map (fun q => (q.queued.isSome, q.locked)) =
        some (true, true) ∧
      ((Call.lock 1).perform (Call.run shared d).renderAll).1.buffer?.map (·.number) = some 1 := by
  intro d blank replaced crowded p shared
  refine ⟨rfl, rfl, by decide, ?_, ?_, ?_, ?_, ?_⟩
  all_goals decide +kernel

end Studio

end ScreenCapture
