import ScreenCapture.Proofs.RegistryLaws
import ScreenCapture.Waiter

namespace ScreenCapture

/-- How far a wait has come that was not answered at once. -/
inductive WaitStage
  /-- Asleep. -/
  | parked
  /-- Woken by an announcement, which another thread may take before it looks again. -/
  | woken
  /-- Out of time, and about to look for the last time. -/
  | expired
  deriving DecidableEq

/-- A wait that is not answered yet. -/
structure Wait where
  /-- Whether there is a limit to it. -/
  timed : Bool
  stage : WaitStage

/-- A waiter, and the threads that wait for what it counts. They look at the count or change it one
at a time, and a thread that finds nothing is asleep before anyone else comes to it. -/
structure WaitingRoom where
  waiter : Waiter
  waits : Registry Nat Wait

namespace WaitingRoom

inductive Turn
  /-- A frame is announced, which wakes the given thread. -/
  | announce (woken : Option Nat)
  | enter (thread : Nat) (timed : Bool)
  | expire (thread : Nat)
  /-- A thread that is awake again looks at the count again. -/
  | recheck (thread : Nat)

def Turn.isAnnouncement : Turn → Bool
  | announce _ => true
  | enter _ _ | expire _ | recheck _ => false

/-- Nobody waits, and nothing was announced. -/
def deserted : WaitingRoom := ⟨.idle, .empty⟩

def IsParked (s : WaitingRoom) (thread : Nat) : Prop :=
  ∃ timed, s.waits.find? thread = some ⟨timed, .parked⟩

/-- Number of the threads that an announcement has woken and that have not looked again. -/
def woken (s : WaitingRoom) : Nat := s.waits.entries.countP fun e => e.2.stage = .woken

/-- A thread looks at the count. It takes an announcement or goes to sleep, or gives up if it looks
for the last time. The answer of the wait is there if it ends. -/
def look (s : WaitingRoom) (thread : Nat) (timed last : Bool) : Option Bool × WaitingRoom :=
  match s.waiter.take? with
  | some w => (some true, ⟨w, s.waits.erase thread⟩)
  | none =>
    if last then (some false, { s with waits := s.waits.erase thread })
    else (none, { s with waits := s.waits.insert thread ⟨timed, .parked⟩ })

/-- What a turn can lead to. An announcement wakes one of the threads that are asleep, unless there
is none. -/
inductive Step (s : WaitingRoom) : Turn → Option Bool × WaitingRoom → Prop
  | announce : (∀ thread, ¬ s.IsParked thread) →
      Step s (.announce none) (none, { s with waiter := s.waiter.notify })
  | wake (thread : Nat) {timed : Bool} : s.waits.find? thread = some ⟨timed, .parked⟩ →
      Step s (.announce (some thread))
        (none, ⟨s.waiter.notify, s.waits.insert thread ⟨timed, .woken⟩⟩)
  | enter (thread : Nat) (timed : Bool) : s.waits.find? thread = none →
      Step s (.enter thread timed) (s.look thread timed false)
  | expire (thread : Nat) : s.waits.find? thread = some ⟨true, .parked⟩ →
      Step s (.expire thread) (none, { s with waits := s.waits.insert thread ⟨true, .expired⟩ })
  | recheck (thread : Nat) {timed : Bool} : s.waits.find? thread = some ⟨timed, .woken⟩ →
      Step s (.recheck thread) (s.look thread timed false)
  | recheckLast (thread : Nat) {timed : Bool} :
      s.waits.find? thread = some ⟨timed, .expired⟩ →
      Step s (.recheck thread) (s.look thread timed true)

/-- A turn, the room in which it is taken, and the answer that it gives. -/
structure Moment where
  before : WaitingRoom
  turn : Turn
  answer : Option Bool

/-- Turns one after another. -/
inductive Course (start : WaitingRoom) : List Moment → WaitingRoom → Prop
  | nil : Course start [] start
  | snoc {xs : List Moment} {s : WaitingRoom} {turn : Turn} {r : Option Bool × WaitingRoom} :
      Course start xs s → Step s turn r → Course start (xs ++ [⟨s, turn, r.1⟩]) r.2

/-- Number of the announcements. -/
def announced (xs : List Moment) : Nat := xs.countP fun x => x.turn.isAnnouncement

/-- Number of the waits that have found a frame. -/
def served (xs : List Moment) : Nat := xs.countP fun x => x.answer = some true

variable {s t : WaitingRoom} {thread : Nat} {timed last : Bool}

theorem look_of_take? {w : Waiter} (hw : s.waiter.take? = some w) :
    s.look thread timed last = (some true, ⟨w, s.waits.erase thread⟩) := by
  rw [look, hw]

theorem look_of_none (hw : s.waiter.take? = none) : s.look thread timed last =
    if last then (some false, { s with waits := s.waits.erase thread })
    else (none, { s with waits := s.waits.insert thread ⟨timed, .parked⟩ }) := by
  rw [look, hw]

/-- A wait in an empty room consists of its turns, with an announcement or the end of its time among
them if it has to sleep. -/
theorem course_wait (w : Waiter) (thread : Nat) (arrives : Bool) :
    ∃ xs, Course ⟨w, .empty⟩ xs ⟨(w.wait arrives).2, .empty⟩ ∧
      xs.filterMap (·.answer) = [(w.wait arrives).1] := by
  have henter := Course.nil.snoc (Step.enter (s := ⟨w, .empty⟩) thread true rfl)
  have herase (a b : Wait) :
      ((Registry.empty.insert thread a).insert thread b).erase thread = .empty := by
    rw [Registry.erase_insert_self, Registry.erase_insert_self]
    rfl
  cases hw : w.take? with
  | some v =>
    rw [look_of_take? hw] at henter
    rw [Waiter.wait, hw]
    exact ⟨_, henter, rfl⟩
  | none =>
    rw [look_of_none hw] at henter
    rw [Waiter.wait, hw]
    have hpending : w.pending < Waiter.limit := by
      rw [Waiter.take?_eq_none.mp hw]
      decide
    cases arrives with
    | true =>
      have hwake := henter.snoc (.wake thread (Registry.find?_insert_self ..))
      have hlook := hwake.snoc (.recheck thread (Registry.find?_insert_self ..))
      rw [look_of_take? (Waiter.take?_notify hpending)] at hlook
      exact ⟨_, herase _ _ ▸ hlook, rfl⟩
    | false =>
      have hexpire := henter.snoc (.expire thread (Registry.find?_insert_self ..))
      have hlook := hexpire.snoc (.recheckLast thread (Registry.find?_insert_self ..))
      rw [look_of_none hw] at hlook
      exact ⟨_, herase _ _ ▸ hlook, rfl⟩

theorem woken_insert {wait : Wait} (hf : s.waits.find? thread = some wait)
    (hstage : wait.stage ≠ .woken) (next : Wait) (w : Waiter) :
    (WaitingRoom.mk w (s.waits.insert thread next)).woken =
      s.woken + if next.stage = .woken then 1 else 0 := by
  rw [woken, woken, Registry.countP_insert, Registry.countP_of_find? hf]
  simp [hstage]

/-- Nobody sleeps beside an announcement that no woken thread is about to claim, and only a wait
with a limit runs out of time. -/
structure Sound (s : WaitingRoom) : Prop where
  claimed (thread : Nat) : s.IsParked thread → s.waiter.pending ≤ s.woken
  timed (thread : Nat) (timed : Bool) : s.waits.find? thread = some ⟨timed, .expired⟩ → timed = true

theorem deserted_sound : deserted.Sound := ⟨nofun, nofun⟩

namespace Sound

theorem announce (h : s.Sound) (hn : ∀ thread, ¬ s.IsParked thread) (w : Waiter) :
    Sound { s with waiter := w } :=
  ⟨fun thread hp => absurd hp (hn thread), h.timed⟩

theorem wake (h : s.Sound) (hf : s.waits.find? thread = some ⟨timed, .parked⟩) :
    Sound ⟨s.waiter.notify, s.waits.insert thread ⟨timed, .woken⟩⟩ := by
  have hclaimed := h.claimed thread ⟨timed, hf⟩
  have hnotify : s.waiter.notify.pending ≤ s.waiter.pending + 1 := Nat.min_le_left _ _
  refine ⟨fun _ _ => ?_, fun other t ho => ?_⟩
  · rw [woken_insert hf WaitStage.noConfusion]
    exact Nat.le_trans hnotify (Nat.succ_le_succ hclaimed)
  · rcases Registry.eq_some_of_find?_insert ho with ⟨_, he⟩ | ho
    · cases he
    · exact h.timed other t ho

theorem expire (h : s.Sound) (hf : s.waits.find? thread = some ⟨true, .parked⟩) :
    Sound { s with waits := s.waits.insert thread ⟨true, .expired⟩ } := by
  refine ⟨fun _ _ => ?_, fun other t ho => ?_⟩
  · rw [woken_insert hf WaitStage.noConfusion]
    exact h.claimed thread ⟨true, hf⟩
  · rcases Registry.eq_some_of_find?_insert ho with ⟨_, he⟩ | ho
    · cases he
      rfl
    · exact h.timed other t ho

theorem look (h : s.Sound) : (s.look thread timed last).2.Sound := by
  cases hw : s.waiter.take? with
  | some w =>
    rw [look_of_take? hw]
    have hpending := Waiter.pending_of_take? hw
    have hwoken := s.waits.countP_le_erase thread fun e => e.2.stage = .woken
    refine ⟨fun other ⟨t, ho⟩ => ?_, fun other t ho => ?_⟩
    · have hclaimed := h.claimed other ⟨t, Registry.eq_some_of_find?_erase ho⟩
      simp only [woken] at hclaimed ⊢
      omega
    · exact h.timed other t (Registry.eq_some_of_find?_erase ho)
  | none =>
    rw [look_of_none hw]
    -- nothing is announced that anyone could sleep beside
    have hpending := Waiter.take?_eq_none.mp hw
    split
    · refine ⟨fun _ _ => hpending ▸ Nat.zero_le _, fun other t ho => ?_⟩
      exact h.timed other t (Registry.eq_some_of_find?_erase ho)
    · refine ⟨fun _ _ => hpending ▸ Nat.zero_le _, fun other t ho => ?_⟩
      rcases Registry.eq_some_of_find?_insert ho with ⟨_, he⟩ | ho
      · cases he
      · exact h.timed other t ho

theorem step {turn : Turn} {r : Option Bool × WaitingRoom} (h : s.Sound) (hs : Step s turn r) :
    r.2.Sound := by
  cases hs with
  | announce hn => exact h.announce hn _
  | wake _ hf => exact h.wake hf
  | enter _ _ hf => exact h.look
  | expire _ hf => exact h.expire hf
  | recheck _ hf => exact h.look
  | recheckLast _ hf => exact h.look

theorem course {xs : List Moment} (h : s.Sound) (hc : Course s xs t) : t.Sound := by
  induction hc with
  | nil => exact h
  | snoc _ hs ih => exact ih.step hs

end Sound

/-- Looking takes one from the count just if it serves the wait. -/
theorem look_pending : (s.look thread timed last).2.waiter.pending +
    (if (s.look thread timed last).1 = some true then 1 else 0) = s.waiter.pending := by
  cases hw : s.waiter.take? with
  | some w =>
    rw [look_of_take? hw, Waiter.pending_of_take? hw]
    rfl
  | none =>
    rw [look_of_none hw]
    split <;> rfl

theorem step_pending {turn : Turn} {r : Option Bool × WaitingRoom} (hs : Step s turn r)
    (hlimit : turn.isAnnouncement = true → s.waiter.pending < Waiter.limit) :
    r.2.waiter.pending + (if r.1 = some true then 1 else 0) =
      s.waiter.pending + if turn.isAnnouncement then 1 else 0 := by
  cases hs with
  | announce _ => exact Nat.min_eq_left (hlimit rfl)
  | wake _ _ => exact Nat.min_eq_left (hlimit rfl)
  | enter _ _ _ => exact look_pending
  | expire _ _ => rfl
  | recheck _ _ => exact look_pending
  | recheckLast _ _ => exact look_pending

theorem course_pending {xs : List Moment} (hc : Course deserted xs s)
    (hlimit : announced xs ≤ Waiter.limit) : s.waiter.pending + served xs = announced xs := by
  induction hc with
  | nil => rfl
  | @snoc xs s turn r hc hs ih =>
    simp only [announced, served, List.countP_append, List.countP_singleton,
      decide_eq_true_eq] at hlimit ih ⊢
    have hbefore := ih (by omega)
    have hstep := step_pending hs fun ha => by
      rw [if_pos ha] at hlimit
      omega
    omega

theorem look_eq_false (h : (s.look thread timed last).1 = some false) :
    s.waiter.pending = 0 ∧ last = true := by
  cases hw : s.waiter.take? with
  | some w =>
    rw [look_of_take? hw] at h
    cases h
  | none =>
    rw [look_of_none hw] at h
    refine ⟨Waiter.take?_eq_none.mp hw, ?_⟩
    cases last with
    | true => rfl
    | false => cases h

/-- A wait is in vain only if its time is up and there is nothing to take at that time. -/
def Moment.InVain (x : Moment) : Prop :=
  x.before.waiter.pending = 0 ∧ ∃ thread, x.turn = .recheck thread ∧
    x.before.waits.find? thread = some ⟨true, .expired⟩

theorem Sound.inVain {turn : Turn} {r : Option Bool × WaitingRoom} (h : s.Sound)
    (hs : Step s turn r) (hr : r.1 = some false) : Moment.InVain ⟨s, turn, r.1⟩ := by
  cases hs with
  | announce _ => cases hr
  | wake _ _ => cases hr
  | enter _ _ _ => exact absurd (look_eq_false hr).2 Bool.false_ne_true
  | expire _ _ => cases hr
  | recheck _ _ => exact absurd (look_eq_false hr).2 Bool.false_ne_true
  | @recheckLast thread timed hf =>
    have htimed := h.timed thread timed hf
    exact ⟨(look_eq_false hr).1, thread, rfl, htimed ▸ hf⟩

theorem Sound.inVain_of_mem {xs : List Moment} (h : s.Sound) (hc : Course s xs t) :
    ∀ x ∈ xs, x.answer = some false → x.InVain := by
  induction hc with
  | nil => nofun
  | snoc hc hs ih =>
    rw [List.forall_mem_append, List.forall_mem_singleton]
    exact ⟨ih, (h.course hc).inVain hs⟩

/-- Whatever threads announce and wait, with a limit or without, and in whatever order they come to
the count: it is what was announced less the waits that were served, as long as it is not at its
limit. A wait is answered in vain only when nothing is there to be taken. And while a thread
sleeps, at least as many threads are woken and about to look as there are announcements left. -/
theorem announcements_claimed {xs : List Moment} (hc : Course deserted xs s) :
    (announced xs ≤ Waiter.limit → s.waiter.pending + served xs = announced xs) ∧
      (∀ x ∈ xs, x.answer = some false → x.before.waiter.pending = 0 ∧ ∃ thread,
        x.turn = .recheck thread ∧ x.before.waits.find? thread = some ⟨true, .expired⟩) ∧
      ∀ thread, s.IsParked thread → s.waiter.pending ≤ s.woken :=
  ⟨course_pending hc, deserted_sound.inVain_of_mem hc, (deserted_sound.course hc).claimed⟩

/-- Two threads sleep, one of them gives up and comes again, and then the other one is woken. -/
theorem announcements_claimed_woken :
    let s : WaitingRoom := ⟨⟨1⟩, ⟨[(1, ⟨true, .parked⟩), (0, ⟨false, .woken⟩)], by decide⟩⟩
    ∃ xs, Course deserted xs s ∧ announced xs = 1 ∧ served xs = 0 ∧
      (∃ x ∈ xs, x.answer = some false ∧ x.before.waiter.pending = 0) ∧ s.IsParked 1 ∧
      s.waiter.pending + served xs = announced xs ∧ s.waiter.pending ≤ s.woken := by
  intro s
  have hc : Course deserted _ s :=
    (((((Course.nil.snoc (.enter 0 false rfl)).snoc (.enter 1 true rfl)).snoc
      (.expire 1 rfl)).snoc (.recheckLast 1 rfl)).snoc (.enter 1 true rfl)).snoc (.wake 0 rfl)
  obtain ⟨hbalance, hvain, hclaimed⟩ := announcements_claimed hc
  have hparked : s.IsParked 1 := ⟨true, rfl⟩
  refine ⟨_, hc, rfl, rfl, ⟨_, List.mem_of_getElem? (i := 3) rfl, rfl, ?_⟩, hparked,
    hbalance (by decide), hclaimed 1 hparked⟩
  exact (hvain _ (List.mem_of_getElem? (i := 3) rfl) rfl).1

end WaitingRoom

end ScreenCapture
