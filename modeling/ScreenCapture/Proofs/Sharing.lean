import ScreenCapture.Capture.Session
import ScreenCapture.Proofs.Replacing
import ScreenCapture.Proofs.Stakes

namespace ScreenCapture

namespace OutputManager

theorem create_isRunning (m : OutputManager) (c : Compositor) (p : OutputParams) :
    (m.create c p).2.1.isRunning = (m.create c p).1.isOk := by
  have hnone := Shifts.destroy_output m c
  unfold create
  generalize m.destroy c = cleared at hnone ⊢
  obtain ⟨m1, d⟩ := cleared
  simp only
  generalize VirtualOutput.build d p = built
  obtain ⟨_ | o, e⟩ := built
  · exact congrArg Option.isSome hnone
  · rfl

theorem lockNext_isRunning {m m' : OutputManager} {c d : Compositor}
    {r : Except CaptureError LockedBuffer} (h : m.lockNext c = some (r, m', d)) :
    m'.isRunning = m.isRunning := by
  obtain ⟨o, ho, he⟩ := Option.map_eq_some_iff.mp h
  cases he
  exact (congrArg Option.isSome ho).symm

end OutputManager

namespace Controller

/-- An output is there just in the states in which one runs. -/
def Aligned (k : Controller) : Prop := k.state.isRunning = k.manager.isRunning

/-- What an operation does besides its answer. -/
structure Steps (k : Controller) (c : Compositor) (k' : Controller) (d : Compositor) : Prop where
  shifts : k.manager.Shifts c k'.manager d
  aligned : k.Aligned → k'.Aligned

variable {k k' k'' : Controller} {c d e : Compositor}

namespace Steps

theorem refl (k : Controller) (c : Compositor) : k.Steps c k c := ⟨.refl k.manager c, fun h => h⟩

theorem trans (h : k.Steps c k' d) (h' : k'.Steps d k'' e) : k.Steps c k'' e :=
  ⟨h.shifts.trans h'.shifts, fun hk => h'.aligned (h.aligned hk)⟩

theorem leaveIdle (k : Controller) (c : Compositor) : k.Steps c k.leaveIdle c := by
  unfold Controller.leaveIdle
  split
  next hi =>
    refine ⟨.refl k.manager c, fun hk => ?_⟩
    rw [Aligned, hi] at hk
    exact hk
  next => exact refl k c

theorem settings (k : Controller) (c : Compositor) (desired real : Option DisplayInfo) :
    k.Steps c { k with desired, real }.leaveIdle c := by
  have hset : k.Steps c { k with desired, real } c := ⟨.refl k.manager c, fun h => h⟩
  exact hset.trans (leaveIdle _ c)

theorem setDesired (k : Controller) (c : Compositor) (info : DisplayInfo) :
    k.Steps c (k.setDesired info).2 c := by
  unfold Controller.setDesired
  split
  next => exact refl k c
  next => exact settings k c (some info) k.real

theorem setReal (k : Controller) (c : Compositor) (info : DisplayInfo) :
    k.Steps c (k.setReal info).2 c := by
  unfold Controller.setReal
  split
  next => exact refl k c
  next => exact settings k c k.desired (some info)

theorem setRealProbed (k : Controller) (c : Compositor) :
    k.Steps c (k.setRealProbed c).2.1 (k.setRealProbed c).2.2 := by
  have hprobe : k.Steps c k (c.probe k.displayId).2 := ⟨.probe k.manager c k.displayId, fun h => h⟩
  unfold Controller.setRealProbed
  generalize c.probe k.displayId = r at hprobe ⊢
  obtain ⟨_ | info, d⟩ := r
  · exact hprobe
  · exact hprobe.trans (setReal k d info)

theorem apply (k : Controller) (c : Compositor) :
    k.Steps c (k.apply c).2.1 (k.apply c).2.2 := by
  have hshifts := OutputManager.Shifts.reconfigure k.manager c k.params
  have hrunning : (k.manager.reconfigure c k.params).2.1.isRunning =
      (k.manager.reconfigure c k.params).1.isOk := OutputManager.create_isRunning _ _ _
  unfold Controller.apply
  split
  next => exact refl k c
  next =>
    generalize k.manager.reconfigure c k.params = r at hshifts hrunning ⊢
    obtain ⟨_ | _, m, d⟩ := r
    · exact ⟨hshifts, fun _ => hrunning.symm⟩
    · exact ⟨hshifts, fun _ => hrunning.symm⟩

/-- A wait that has begun is for the waiter of the output. -/
theorem beginWait (k : Controller) (operation : CaptureOperation) (c : Compositor) :
    k.Steps c (k.beginWait operation c).2.1 (k.beginWait operation c).2.2 ∧
      ∀ waiter, (k.beginWait operation c).1 = .ok (some waiter) →
        (∃ o, (k.beginWait operation c).2.1.manager.output = some o ∧ o.waiter = waiter) ∧
          (k.beginWait operation c).2.1.state.isRunning = true := by
  unfold Controller.beginWait
  split
  next => exact ⟨refl k c, nofun⟩
  next hrunning =>
    rw [Bool.not_eq_true', Bool.not_eq_false] at hrunning
    split
    next => exact ⟨refl k c, nofun⟩
    next =>
      cases ho : k.manager.output with
      | none =>
        have hu : k.manager.unlock c = none := by simp [OutputManager.unlock, ho]
        simp only [hu, ho]
        refine ⟨⟨.refl k.manager c, fun hk => hrunning.symm.trans hk⟩, fun waiter hw => ?_⟩
        cases hw
      | some o =>
        generalize hl : o.holder.unlock (Compositor.source o.queue) c = unlocked
        obtain ⟨b, holder, d⟩ := unlocked
        have hu : k.manager.unlock c = some (b, ⟨some { o with holder }⟩, d) := by
          simp [OutputManager.unlock, ho, hl]
        simp only [hu]
        refine ⟨⟨.unlock hu, fun _ => rfl⟩, fun waiter hw => ⟨⟨_, rfl, ?_⟩, rfl⟩⟩
        exact Option.some.inj (Except.ok.inj hw)

theorem noteFrame (hs : k.state.isRunning = true) (c : Compositor) : k.Steps c k.noteFrame c :=
  ⟨.refl k.manager c, fun hk => hs.symm.trans hk⟩

theorem waitAs (k : Controller) (operation : CaptureOperation) (arrives : Bool)
    (c : Compositor) : k.Steps c (k.waitAs operation arrives c).2.1
      (k.waitAs operation arrives c).2.2 := by
  obtain ⟨hbegin, hwaiter⟩ := beginWait k operation c
  unfold Controller.waitAs
  generalize k.beginWait operation c = r at hbegin hwaiter ⊢
  obtain ⟨_ | _ | waiter, k', d⟩ := r
  · exact hbegin
  · exact hbegin
  · obtain ⟨⟨o, ho, rfl⟩, hrunning⟩ := hwaiter waiter rfl
    have hawait := OutputManager.Shifts.awaitNotice ho d arrives
    have hwaited : k.Steps c k' (d.awaitNotice o.waiter arrives).2 :=
      hbegin.trans ⟨hawait, fun h => h⟩
    simp only
    generalize d.awaitNotice o.waiter arrives = r at hwaited ⊢
    obtain ⟨_ | _, d⟩ := r
    · exact hwaited
    · exact hwaited.trans (noteFrame hrunning d)

theorem consume (k : Controller) (c : Compositor) :
    k.Steps c (k.consume c).2.1 (k.consume c).2.2 := by
  unfold Controller.consume
  split
  next => exact refl k c
  next hs =>
    rw [ne_eq, not_not] at hs
    cases hl : k.manager.lockNext c with
    | none => exact refl k c
    | some after =>
      obtain ⟨_ | buffer, m, d⟩ := after
      · refine ⟨.lockNext hl, fun hk => ?_⟩
        exact hk.trans (OutputManager.lockNext_isRunning hl).symm
      · have hsteps (stats : CaptureStats) : k.Steps c
            { k with manager := m, stats, framePending := false, state := .awaitingFrame } d := by
          refine ⟨.lockNext hl, fun hk => ?_⟩
          rw [Aligned, hs] at hk
          exact hk.trans (OutputManager.lockNext_isRunning hl).symm
        simp only
        cases m.frame? d <;> exact hsteps _

theorem release (k : Controller) (c : Compositor) :
    k.Steps c (k.release c).1 (k.release c).2 := by
  unfold Controller.release
  split
  next => exact refl k c
  next =>
    refine ⟨.destroy k.manager c, fun _ => ?_⟩
    exact (congrArg Option.isSome (OutputManager.Shifts.destroy_output k.manager c)).symm

theorem perform (op : Operation) (k : Controller) (c : Compositor) :
    k.Steps c (op.perform k c).2.1 (op.perform k c).2.2 := by
  cases op with
  | setDesired info => exact setDesired k c info
  | setReal info => exact setReal k c info
  | apply => exact apply k c
  | wait => exact waitAs k .wait true c
  | waitTimeout arrives => exact waitAs k .waitTimeout arrives c
  | consume => exact consume k c
  | release => exact release k c

end Steps

end Controller

namespace Controller

theorem Aligned.stake?_isSome {k : Controller} (h : k.Aligned) :
    k.manager.stake?.isSome = k.state.isRunning := by
  rw [OutputManager.stake?, Option.isSome_map]
  exact h.symm

end Controller

namespace Session

def stakes (s : Session) : List (Site × Bool) :=
  s.controllers.entries.flatMap fun e => e.2.manager.stake?.toList

/-- The compositor hosts the outputs of the captures, each of which knows of its own. -/
structure Sound (s : Session) : Prop where
  served : s.compositor.Serves s.stakes
  aligned : ∀ e ∈ s.controllers.entries, e.2.Aligned
  booked : s.compositor.Booked
  below : ∀ index ∈ s.controllers.keys, index < s.nextIndex

variable {s : Session} {index : Nat} {k k' : Controller} {d : Compositor}

namespace Sound

/-- A capture that does something, while the others do nothing. -/
theorem modify (h : s.Sound) (hk : s.controllers.find? index = some k)
    (hsteps : k.Steps s.compositor k' d) :
    Sound { s with compositor := d, controllers := s.controllers.modify index fun _ => k' } := by
  have hbefore := Registry.entries_perm hk
  have hafter := Registry.entries_modify_perm hk fun _ => k'
  have hserved := h.served.perm (hbefore.flatMap_right _).symm
  refine ⟨?_, ?_, hsteps.shifts.booked h.booked, ?_⟩
  · refine Compositor.Serves.perm ?_ (hafter.flatMap_right _)
    rw [List.flatMap_cons] at hserved ⊢
    exact hsteps.shifts.serves _ hserved
  · intro e he
    rcases List.mem_cons.mp (hafter.subset he) with rfl | he
    · exact hsteps.aligned (h.aligned _ (hbefore.symm.subset List.mem_cons_self))
    · exact h.aligned e (hbefore.symm.subset (List.mem_cons_of_mem _ he))
  · intro other ho
    rw [Registry.keys_modify] at ho
    exact h.below other ho

theorem create (h : s.Sound) (displayId : Int32) : (s.create displayId).2.Sound := by
  have hnew : s.controllers.find? s.nextIndex = none :=
    Registry.find?_of_not_mem_keys fun hm => Nat.lt_irrefl _ (h.below _ hm)
  have hentries : (s.controllers.insert s.nextIndex (.new displayId)).entries =
      s.controllers.entries ++ [(s.nextIndex, .new displayId)] := by
    simp [Registry.insert, Registry.erase_of_absent hnew]
  refine ⟨?_, ?_, h.booked, ?_⟩
  · have hstakes : (s.create displayId).2.stakes = s.stakes := by
      rw [stakes, Session.create, hentries, List.flatMap_append]
      exact List.append_nil _
    rw [hstakes]
    exact h.served
  · intro e he
    rw [Session.create, hentries] at he
    rcases List.mem_append.mp he with he | he
    · exact h.aligned e he
    · rw [List.mem_singleton.mp he]
      rfl
  · intro index hm
    rw [Session.create, Registry.keys, hentries, List.map_append] at hm
    rcases List.mem_append.mp hm with hm | hm
    · exact Nat.lt_succ_of_lt (h.below index hm)
    · rw [List.mem_singleton.mp hm]
      exact Nat.lt_succ_self _

theorem drop (h : s.Sound) (index : Nat) : (s.drop index).Sound := by
  cases hk : s.controllers.find? index with
  | none =>
    simp only [Session.drop, hk]
    exact h
  | some k =>
    have hbefore := Registry.entries_perm hk
    have hserved := h.served.perm (hbefore.flatMap_right _).symm
    have hrelease := Controller.Steps.release k s.compositor
    have hnone : (k.release s.compositor).1.manager.stake? = none := by
      have hk' := hrelease.aligned (h.aligned _ (hbefore.symm.subset List.mem_cons_self))
      have hs := hk'.stake?_isSome
      rw [Controller.release_state] at hs
      exact Option.not_isSome_iff_eq_none.mp (by rw [hs]; exact Bool.false_ne_true)
    simp only [Session.drop, hk]
    refine ⟨?_, ?_, hrelease.shifts.booked h.booked, ?_⟩
    · rw [List.flatMap_cons] at hserved
      have hafter := hrelease.shifts.serves _ hserved
      rwa [hnone] at hafter
    · exact fun e he => h.aligned e (hbefore.symm.subset (List.mem_cons_of_mem _ he))
    · intro other ho
      rw [Registry.keys_erase] at ho
      exact h.below other (List.mem_of_mem_filter ho)

theorem happen (h : s.Sound) (x : Happening) :
    Sound { s with compositor := x.apply s.compositor } :=
  ⟨h.served.happen x, h.aligned, h.booked.happen x, h.below⟩

end Sound

theorem mem_drop {e : Nat × Controller} :
    e ∈ (s.drop index).controllers.entries ↔ e ∈ s.controllers.entries ∧ e.1 ≠ index := by
  unfold Session.drop
  cases hk : s.controllers.find? index with
  | none => exact ⟨fun he => ⟨he, Registry.find?_eq_none.mp hk e he⟩, fun he => he.1⟩
  | some k => exact Registry.mem_erase

/-- There is one stake for each capture that runs. -/
theorem Sound.length_stakes (h : s.Sound) :
    s.stakes.length = s.controllers.entries.countP (·.2.state.isRunning) := by
  have haligned := h.aligned
  unfold stakes
  generalize s.controllers.entries = captures at haligned ⊢
  induction captures with
  | nil => rfl
  | cons e rest ih =>
    have he := (haligned e List.mem_cons_self).stake?_isSome
    rw [List.flatMap_cons, List.length_append,
      ih fun e he => haligned e (List.mem_cons_of_mem _ he), List.countP_cons, ← he]
    cases e.2.manager.stake? <;> simp [Nat.add_comm]

/-- Each output is that of one capture that runs. -/
theorem Sound.live (h : s.Sound) :
    s.compositor.liveDisplays = s.controllers.entries.countP (·.2.state.isRunning) ∧
      s.compositor.liveQueues = s.controllers.entries.countP (·.2.state.isRunning) := by
  obtain ⟨feeds, hosts, hp⟩ := h.served
  have hcount : feeds.length = s.stakes.length :=
    (List.length_map _).symm.trans hp.length_eq.symm
  rw [← h.length_stakes, ← hcount]
  exact ⟨hosts.liveDisplays, hosts.liveQueues⟩

end Session

/-- Captures that share a compositor, some of which wait. -/
structure Sharing where
  session : Session
  /-- The waiter for which a capture waits. -/
  waiting : Nat → Option WaiterId

/-- What captures that share a compositor do at one go. -/
inductive SharedTurn
  | create (displayId : Int32)
  | operate (index : Nat) (op : Operation)
  /-- Takes the size of the captured display from the compositor. -/
  | probe (index : Nat)
  | beginWait (index : Nat) (operation : CaptureOperation)
  | endWait (index : Nat)
  | giveUp (index : Nat)
  | drop (index : Nat)
  | happen (x : Happening)

namespace Sharing

/-- Nobody has created a capture yet. -/
def start (c : Compositor) : Sharing := ⟨⟨c, .empty, 0⟩, fun _ => none⟩

def setWaiting (t : Sharing) (index : Nat) (waiter : Option WaiterId) : Sharing :=
  { t with waiting := fun other => if other = index then waiter else t.waiting other }

/-- A capture that waits does nothing else meanwhile. -/
def operate {α : Type} (t : Sharing) (index : Nat)
    (operation : Controller → Compositor → α × Controller × Compositor) : Option (α × Sharing) :=
  if (t.waiting index).isSome then none
  else (t.session.on index operation).map fun after => (after.1, { t with session := after.2 })

def turn (t : Sharing) : SharedTurn → Sharing
  | .create displayId => { t with session := (t.session.create displayId).2 }
  | .operate index op => ((t.operate index op.perform).map (·.2)).getD t
  | .probe index => ((t.operate index Controller.setRealProbed).map (·.2)).getD t
  | .beginWait index operation =>
    match t.operate index (·.beginWait operation) with
    | some (.ok waiter, t) => t.setWaiting index waiter
    | some (.error _, t) => t
    | none => t
  | .endWait index =>
    match t.waiting index with
    | none => t
    | some waiter =>
      match t.session.compositor.takeNotice? waiter with
      | none => t
      | some compositor =>
        { t with session := { t.session with
            compositor, controllers := t.session.controllers.modify index Controller.noteFrame }
        }.setWaiting index none
  | .giveUp index => t.setWaiting index none
  | .drop index =>
    if (t.waiting index).isSome then t else { t with session := t.session.drop index }
  | .happen x =>
    { t with session := { t.session with compositor := x.apply t.session.compositor } }

def run (turns : List SharedTurn) (t : Sharing) : Sharing := turns.foldl turn t

/-- Whoever waits, waits for frames of its own output. -/
structure Sound (t : Sharing) : Prop where
  session : t.session.Sound
  waits (index : Nat) (waiter : WaiterId) : t.waiting index = some waiter →
    ∃ k o, t.session.controllers.find? index = some k ∧ k.manager.output = some o ∧
      o.waiter = waiter ∧ k.state.isRunning = true

variable {t : Sharing} {index : Nat} {k k' : Controller} {d : Compositor}

namespace Sound

theorem start (panels : Registry Int32 Panel) (interval : Nat) :
    (Sharing.start (.ofPanels panels interval)).Sound where
  session :=
    { served := ⟨[], Compositor.ofPanels_hosts panels interval, List.Perm.refl []⟩
      aligned := fun _ he => absurd he List.not_mem_nil
      booked := Compositor.ofPanels_booked panels interval
      below := fun _ hm => absurd hm List.not_mem_nil }
  waits _ _ hw := nomatch hw

theorem modify (h : t.Sound) (hk : t.session.controllers.find? index = some k)
    (hsteps : k.Steps t.session.compositor k' d) (waiting : Nat → Option WaiterId)
    (hothers : ∀ other, other ≠ index → waiting other = t.waiting other)
    (hown : ∀ waiter, waiting index = some waiter →
      (∃ o, k'.manager.output = some o ∧ o.waiter = waiter) ∧ k'.state.isRunning = true) :
    Sound ⟨{ t.session with
      compositor := d, controllers := t.session.controllers.modify index fun _ => k' }, waiting⟩
    where
  session := h.session.modify hk hsteps
  waits other waiter hw := by
    by_cases ho : other = index
    · subst ho
      obtain ⟨⟨o, hout, hwaiter⟩, hrunning⟩ := hown waiter hw
      refine ⟨k', o, ?_, hout, hwaiter, hrunning⟩
      rw [Registry.find?_modify_self, hk]
      rfl
    · rw [Registry.find?_modify_ne _ _ ho]
      exact h.waits other waiter ((hothers other ho).symm.trans hw)

theorem operate (h : t.Sound) {α : Type}
    {operation : Controller → Compositor → α × Controller × Compositor}
    (hsteps : ∀ (k : Controller) c, k.Steps c (operation k c).2.1 (operation k c).2.2)
    {a : α} {t' : Sharing} (ht : t.operate index operation = some (a, t')) : t'.Sound := by
  unfold Sharing.operate at ht
  split at ht
  next => cases ht
  next hfree =>
    obtain ⟨after, hon, he⟩ := Option.map_eq_some_iff.mp ht
    obtain ⟨k, hk, rfl⟩ := Option.map_eq_some_iff.mp hon
    cases he
    refine h.modify hk (hsteps k t.session.compositor) t.waiting (fun _ _ => rfl)
      fun waiter hw => ?_
    rw [hw] at hfree
    exact absurd rfl hfree

theorem beginWait (h : t.Sound) (operation : CaptureOperation) :
    (t.turn (.beginWait index operation)).Sound := by
  have hbegin (k : Controller) (c : Compositor) := Controller.Steps.beginWait k operation c
  simp only [turn]
  split
  next waiter t' ht =>
    -- the capture whose wait has begun is the one that was asked
    unfold Sharing.operate at ht
    split at ht
    next => cases ht
    next =>
      obtain ⟨after, hon, he⟩ := Option.map_eq_some_iff.mp ht
      obtain ⟨k, hk, rfl⟩ := Option.map_eq_some_iff.mp hon
      obtain ⟨ha, rfl⟩ := Prod.mk.inj he
      refine h.modify hk (hbegin k _).1 _ (fun other ho => if_neg ho) fun w hw => ?_
      refine (hbegin k _).2 w (ha.trans ?_)
      exact congrArg Except.ok ((if_pos rfl).symm.trans hw)
  next ht => exact h.operate (fun k c => (hbegin k c).1) ht
  next => exact h

theorem endWait (h : t.Sound) : (t.turn (.endWait index)).Sound := by
  simp only [turn]
  split
  next => exact h
  next waiter hw =>
    split
    next => exact h
    next d hd =>
      obtain ⟨k, o, hk, hout, rfl, hrunning⟩ := h.waits index waiter hw
      have hsteps : k.Steps t.session.compositor k.noteFrame d :=
        .trans ⟨.takeNotice hout hd, fun hk => hk⟩ (.noteFrame hrunning d)
      have hnoted := h.modify hk hsteps (t.setWaiting index none).waiting
        (fun other ho => if_neg ho) fun w hw => ?_
      · have hfun : (t.session.controllers.modify index fun _ => k.noteFrame) =
            t.session.controllers.modify index Controller.noteFrame :=
          Registry.modify_congr hk rfl
        rw [hfun] at hnoted
        exact hnoted
      · exact absurd ((if_pos rfl).symm.trans hw) nofun

theorem giveUp (h : t.Sound) : (t.turn (.giveUp index)).Sound := by
  refine ⟨h.session, fun other waiter hw => h.waits other waiter ?_⟩
  simp only [Sharing.turn, setWaiting] at hw
  split at hw
  next => cases hw
  next => exact hw

theorem create (h : t.Sound) (displayId : Int32) : (t.turn (.create displayId)).Sound := by
  refine ⟨h.session.create displayId, fun other waiter hw => ?_⟩
  obtain ⟨k, o, hk, hout, hwaiter, hrunning⟩ := h.waits other waiter hw
  have hlt := h.session.below other (Registry.mem_keys.mpr (by rw [hk]; rfl))
  refine ⟨k, o, ?_, hout, hwaiter, hrunning⟩
  exact (Registry.find?_insert_ne _ _ (Nat.ne_of_lt hlt)).trans hk

theorem drop (h : t.Sound) : (t.turn (.drop index)).Sound := by
  simp only [Sharing.turn]
  split
  next => exact h
  next hfree =>
    refine ⟨h.session.drop index, fun other waiter hw => ?_⟩
    have ho : other ≠ index := by
      rintro rfl
      exact hfree (by rw [hw]; rfl)
    obtain ⟨k, o, hk, hout, hwaiter, hrunning⟩ := h.waits other waiter hw
    refine ⟨k, o, ?_, hout, hwaiter, hrunning⟩
    simp only [Session.drop]
    split
    next => exact hk
    next => exact (Registry.find?_erase_ne _ ho).trans hk

theorem answered (h : t.Sound) {α : Type}
    {operation : Controller → Compositor → α × Controller × Compositor}
    (hsteps : ∀ (k : Controller) c, k.Steps c (operation k c).2.1 (operation k c).2.2) :
    (((t.operate index operation).map (·.2)).getD t).Sound := by
  cases ht : t.operate index operation with
  | none => exact h
  | some after => exact h.operate hsteps ht

theorem turn (h : t.Sound) (a : SharedTurn) : (t.turn a).Sound := by
  cases a with
  | create displayId => exact h.create displayId
  | operate index op => exact h.answered (Controller.Steps.perform op)
  | probe index => exact h.answered Controller.Steps.setRealProbed
  | beginWait index operation => exact h.beginWait operation
  | endWait index => exact h.endWait
  | giveUp index => exact h.giveUp
  | drop index => exact h.drop
  | happen x => exact ⟨h.session.happen x, h.waits⟩

theorem run (h : t.Sound) (turns : List SharedTurn) : (run turns t).Sound := by
  induction turns generalizing t with
  | nil => exact h
  | cons a turns ih => exact ih (h.turn a)

end Sound

/-- A capture is released or dropped, once it waits no longer. -/
def ending (releases : Nat → Bool) (index : Nat) : List SharedTurn :=
  [.giveUp index, if releases index then .operate index .release else .drop index]

/-- All but some captures are released. -/
def ReleasedBut (t : Sharing) (indices : List Nat) : Prop :=
  ∀ e ∈ t.session.controllers.entries, e.1 ∉ indices → e.2.state = .released

theorem ReleasedBut.giveUp {indices : List Nat} (h : t.ReleasedBut indices) (index : Nat) :
    (t.turn (.giveUp index)).ReleasedBut indices ∧ (t.turn (.giveUp index)).waiting index = none :=
  ⟨h, if_pos rfl⟩

theorem ReleasedBut.drop {rest : List Nat} (h : t.ReleasedBut (index :: rest))
    (hw : t.waiting index = none) : (t.turn (.drop index)).ReleasedBut rest := by
  intro e he hrest
  simp only [turn, hw, Option.isSome_none, Bool.false_eq_true, if_false] at he
  obtain ⟨he, hne⟩ := Session.mem_drop.mp he
  exact h e he fun hm => (List.mem_cons.mp hm).elim hne hrest

theorem ReleasedBut.release {rest : List Nat} (h : t.ReleasedBut (index :: rest))
    (hw : t.waiting index = none) : (t.turn (.operate index .release)).ReleasedBut rest := by
  intro e he hrest
  simp only [turn, operate, hw, Option.isSome_none, Bool.false_eq_true, if_false, Session.on] at he
  cases hk : t.session.controllers.find? index with
  | none =>
    simp only [hk, Option.map_none, Option.getD_none] at he
    have hne := Registry.find?_eq_none.mp hk e he
    exact h e he fun hm => (List.mem_cons.mp hm).elim hne hrest
  | some k =>
    simp only [hk, Option.map_some, Option.getD_some] at he
    rcases List.mem_cons.mp ((Registry.entries_modify_perm hk _).subset he) with rfl | he
    · exact k.release_state t.session.compositor
    · obtain ⟨he, hne⟩ := Registry.mem_erase.mp he
      exact h e he fun hm => (List.mem_cons.mp hm).elim hne hrest

theorem ReleasedBut.ending {rest : List Nat} (h : t.ReleasedBut (index :: rest))
    (releases : Nat → Bool) : (run (Sharing.ending releases index) t).ReleasedBut rest := by
  obtain ⟨h, hw⟩ := h.giveUp index
  simp only [Sharing.ending, run, List.foldl_cons, List.foldl_nil]
  cases releases index with
  | true => exact h.release hw
  | false => exact h.drop hw

theorem ReleasedBut.endings {indices : List Nat} (h : t.ReleasedBut indices)
    (releases : Nat → Bool) :
    (run (indices.flatMap (Sharing.ending releases)) t).ReleasedBut [] := by
  induction indices generalizing t with
  | nil => exact h
  | cons index rest ih =>
    rw [List.flatMap_cons, run, List.foldl_append]
    exact ih (h.ending releases)

end Sharing

namespace Compositor

/-- No output is left, and no display was destroyed but once. -/
structure IsClear (c : Compositor) : Prop where
  displays : c.liveDisplays = 0
  queues : c.liveQueues = 0
  destroyed (token : DisplayToken) :
    .displayCreated token ∈ c.events → c.events.count (.displayDestroyed token) = 1

theorem Booked.count_display {c : Compositor} (h : c.Booked) (token : DisplayToken) :
    c.events.count (.displayCreated token) ≤ 1 ∧
      c.events.count (.displayDestroyed token) + (decide (token ∈ c.displays.keys)).toNat =
        c.events.count (.displayCreated token) := by
  refine ⟨h.orderly.count_opening_le_one (.display token), ?_⟩
  have hlive := h.orderly.count_live (.display token)
  have hcount : (books c.events).live.count (.display token) =
      (decide (token ∈ c.displays.keys)).toNat := by
    rw [h.orderly.live_nodup.count]
    simp only [h.mem_displays]
    split <;> simp_all
  rw [← hcount, Nat.add_comm]
  exact hlive

end Compositor

namespace Session

theorem Sound.isClear {s : Session} (h : s.Sound)
    (hreleased : ∀ e ∈ s.controllers.entries, e.2.state = .released) : s.compositor.IsClear := by
  have hnone : s.controllers.entries.countP (·.2.state.isRunning) = 0 := by
    rw [List.countP_eq_zero]
    intro e he
    rw [hreleased e he]
    exact Bool.false_ne_true
  have hdisplays := h.live.1.trans hnone
  refine ⟨hdisplays, h.live.2.trans hnone, fun token hm => ?_⟩
  obtain ⟨hle, hcount⟩ := h.booked.count_display token
  have hkeys : s.compositor.displays.keys = [] := by
    rw [← List.length_eq_zero_iff, Registry.length_keys]
    exact hdisplays
  have hpos := List.count_pos_iff.mpr hm
  simp only [hkeys, List.not_mem_nil, decide_false, Bool.toNat_false] at hcount
  omega

end Session

namespace Sharing

/-- However captures over one compositor take turns, and whatever calls fail, the displays and the
queues that are live are those of the captures that run, one each. Once every capture is released or
dropped nothing is left, and each display was destroyed just once. -/
theorem shared_outputs_balance (panels : Registry Int32 Panel) (interval : Nat)
    (turns : List SharedTurn) :
    let t := run turns (start (.ofPanels panels interval))
    let c := t.session.compositor
    let captures := t.session.controllers.entries.map (·.2)
    let running := captures.countP fun k => k.state = .awaitingFrame ∨ k.state = .frameReady
    c.liveDisplays = running ∧ c.liveQueues = running ∧
      (∀ token, c.events.count (.displayCreated token) ≤ 1 ∧
        c.events.count (.displayDestroyed token) + (decide (token ∈ c.displays.keys)).toNat =
          c.events.count (.displayCreated token)) ∧
      ((∀ k ∈ captures, k.state = .released) → c.IsClear) ∧
      ∀ releases : Nat → Bool,
        (run (t.session.controllers.keys.flatMap (ending releases))
          t).session.compositor.IsClear := by
  intro t c captures running
  have hsound : t.Sound := (Sound.start panels interval).run turns
  have hrunning : t.session.controllers.entries.countP (·.2.state.isRunning) = running := by
    simp only [running, captures, List.countP_map]
    refine List.countP_congr fun e _ => ?_
    cases hs : e.2.state <;> simp [hs, CaptureState.isRunning]
  obtain ⟨hdisplays, hqueues⟩ := hsound.session.live
  refine ⟨hdisplays.trans hrunning, hqueues.trans hrunning, hsound.session.booked.count_display,
    ?_, ?_⟩
  · exact fun hreleased =>
      hsound.session.isClear fun e he => hreleased e.2 (List.mem_map_of_mem he)
  · intro releases
    have hall : t.ReleasedBut t.session.controllers.keys := fun e he hn =>
      absurd (List.mem_map_of_mem he) hn
    have hended := ReleasedBut.endings hall releases
    exact (hsound.run _).session.isClear fun e he => hended e he List.not_mem_nil

end Sharing

end ScreenCapture
