import ScreenCapture.Proofs.Effects
import ScreenCapture.Proofs.Twins

namespace ScreenCapture

/-- What is returned to whoever drives a capture. -/
inductive Outcome
  | answered (answer : Answer)
  | probed (result : Except CaptureError Unit)
  /-- Whether there is a frame to wait for. -/
  | begun (result : Except CaptureError Bool)
  | ended (noticed : Bool)

def Outcome.isServed : Outcome → Bool
  | answered answer => answer.isServed
  | ended noticed => noticed
  | probed _ | begun _ => true

/-- What can be seen of a capture at any time. -/
structure Look where
  state : CaptureState
  stats : CaptureStats
  framePending : Bool
  isDisplayRunning : Bool
  isBufferHeld : Bool
  deriving DecidableEq

def Controller.look (k : Controller) : Look :=
  ⟨k.state, k.stats, k.framePending, k.isDisplayRunning, k.isBufferHeld⟩

/-- What can be seen when it is the turn of a capture. -/
structure Sight where
  outcome : Option Outcome
  look : Option Look
  /-- What is added to the log. -/
  events : List Event

def Sight.isServed (x : Sight) : Bool := x.outcome.all Outcome.isServed

def Sight.rename (ρ : Nat → Nat) (x : Sight) : Sight :=
  { x with events := x.events.map (·.rename ρ) }

theorem Controller.Twin.look {exact : Bool} {ρ : Nat → Nat} {c c₀ : Compositor}
    {m : OutputManager} {k : Controller} (h : Twin exact ρ c c₀ m k) :
    (k.withManager m).look = k.look := by
  have hrunning : (k.withManager m).isDisplayRunning = k.isDisplayRunning := h.managers.isRunning
  have hheld : (k.withManager m).isBufferHeld = k.isBufferHeld := h.managers.isHolding
  simp only [Controller.look, hrunning, hheld]
  rfl

theorem Compositor.takeNotice?_of_awaitNotice {c d : Compositor} {waiter : WaiterId} {b : Bool}
    (h : c.awaitNotice waiter false = (b, d)) :
    c.takeNotice? waiter = if b then some d else none := by
  unfold Compositor.awaitNotice at h
  cases hn : c.takeNotice? waiter <;> simp_all

namespace Sharing

def outcome (t : Sharing) : SharedTurn → Option Outcome
  | .operate index op => (t.operate index op.perform).map fun r => .answered r.1
  | .probe index => (t.operate index Controller.setRealProbed).map fun r => .probed r.1
  | .beginWait index operation =>
    (t.operate index (·.beginWait operation)).map fun r => .begun (r.1.map Option.isSome)
  | .endWait index =>
    (t.waiting index).map fun waiter =>
      .ended (t.session.compositor.takeNotice? waiter).isSome
  | .create _ | .giveUp _ | .drop _ | .happen _ => none

def sight (t : Sharing) (index : Nat) (a : SharedTurn) : Sight where
  outcome := t.outcome a
  look := ((t.turn a).session.controllers.find? index).map Controller.look
  events := (t.turn a).session.compositor.events.drop t.session.compositor.events.length

theorem isServed_outcome {t : Sharing} {index : Nat} {a : SharedTurn} {x : Outcome}
    (h : (t.sight index a).isServed) (hx : t.outcome a = some x) : x.isServed := by
  have hall : (t.outcome a).all Outcome.isServed := h
  rw [hx] at hall
  exact hall

/-- All that is seen of a capture, turn by turn. -/
def sights (index : Nat) : List SharedTurn → Sharing → List Sight
  | [], _ => []
  | a :: turns, t =>
    if a.index? = some index then t.sight index a :: sights index turns (t.turn a)
    else sights index turns (t.turn a)

/-- Nothing is armed, and the capture was created. -/
structure IsCalm (t : Sharing) (i : Nat) : Prop where
  sound : t.Sound
  unarmed (point : FailPoint) : t.session.compositor.armed point = none
  known : i < t.session.nextIndex

theorem IsCalm.compositor {t : Sharing} {i : Nat} (h : t.IsCalm i) :
    t.session.compositor.IsCalm := by
  obtain ⟨feeds, hosts, _⟩ := h.sound.session.served
  exact ⟨⟨feeds, hosts⟩, h.unarmed⟩

theorem IsCalm.onward {t : Sharing} {i : Nat} {a : SharedTurn} (h : t.IsCalm i)
    (ha : a.arms = false) : t.session.compositor.Onward (t.turn a).session.compositor :=
  (h.sound.effect a).onward h.sound ha

theorem IsCalm.turn {t : Sharing} {i : Nat} {a : SharedTurn} (h : t.IsCalm i)
    (ha : a.arms = false) : (t.turn a).IsCalm i where
  sound := h.sound.turn a
  unarmed point := (h.onward ha).armed point (h.unarmed point)
  known := Nat.lt_of_lt_of_le h.known (h.sound.effect a).nextIndex

/-- A capture here and a capture there are twins, or both are gone. While they wait, no frame is
noted and nothing is held. -/
inductive Pair (exact : Bool) (ρ : Nat → Nat) (t : Sharing) (i : Nat) (t₀ : Sharing) (j : Nat) :
    Prop
  | gone : t.session.controllers.find? i = none → t₀.session.controllers.find? j = none →
      Pair exact ρ t i t₀ j
  | both {m : OutputManager} {k : Controller} :
      t.session.controllers.find? i = some (k.withManager m) →
      t₀.session.controllers.find? j = some k →
      Controller.Twin exact ρ t.session.compositor t₀.session.compositor m k →
      ((t₀.waiting j).isSome = true → k.framePending = false ∧ k.manager.isHolding = false) →
      Pair exact ρ t i t₀ j

/-- Nobody could tell the one capture from the other. -/
structure Twin (exact : Bool) (ρ : Nat → Nat) (t : Sharing) (i : Nat) (t₀ : Sharing) (j : Nat) :
    Prop where
  calm : t.IsCalm i
  calm₀ : t₀.IsCalm j
  panels : t.session.compositor.panels = t₀.session.compositor.panels
  naming : Naming ρ t.session.compositor t₀.session.compositor
  waiting : (t.waiting i).isSome = (t₀.waiting j).isSome
  pair : Pair exact ρ t i t₀ j

/-- What a turn comes to for both. -/
structure Follows (exact : Bool) (ρ σ : Nat → Nat) (t : Sharing) (i : Nat) (t' : Sharing)
    (t₀ : Sharing) (j : Nat) (t₀' : Sharing) : Prop where
  news : News ρ σ t.session.compositor t₀.session.compositor t'.session.compositor
    t₀'.session.compositor
  waiting : (t'.waiting i).isSome = (t₀'.waiting j).isSome
  pair : Pair exact σ t' i t₀' j

theorem operate_some {α : Type} {t : Sharing} {index : Nat} {k : Controller}
    (operation : Controller → Compositor → α × Controller × Compositor)
    (hw : (t.waiting index).isSome = false) (hk : t.session.controllers.find? index = some k) :
    t.operate index operation = some ((operation k t.session.compositor).1,
      { t with session := { t.session with
          compositor := (operation k t.session.compositor).2.2
          controllers := t.session.controllers.modify index fun _ =>
            (operation k t.session.compositor).2.1 } }) := by
  rw [operate_eq, hw, hk]
  rfl

variable {exact : Bool} {ρ σ τ : Nat → Nat} {t t₀ : Sharing} {i j : Nat} {a b : SharedTurn}

/-- Each does something in its place. -/
theorem Follows.done {k k₀ k' k₀' : Controller} {m : OutputManager} {d d₀ : Compositor}
    {waiting waiting₀ : Nat → Option WaiterId}
    (hnews : News ρ σ t.session.compositor t₀.session.compositor d d₀)
    (hk : t.session.controllers.find? i = some k) (hk₀ : t₀.session.controllers.find? j = some k₀)
    (hlike : k' = k₀'.withManager m) (hafter : Controller.Twin exact σ d d₀ m k₀')
    (hwaiting : (waiting i).isSome = (waiting₀ j).isSome)
    (hwaits : (waiting₀ j).isSome = true →
      k₀'.framePending = false ∧ k₀'.manager.isHolding = false) :
    Follows exact ρ σ
      t i ⟨{ t.session with
        compositor := d, controllers := t.session.controllers.modify i fun _ => k' }, waiting⟩
      t₀ j ⟨{ t₀.session with
        compositor := d₀, controllers := t₀.session.controllers.modify j fun _ => k₀' },
        waiting₀⟩ where
  news := hnews
  waiting := hwaiting
  pair := by
    refine .both ?_ ?_ hafter hwaits
    · simp only [Registry.find?_modify_self, hk, Option.map_some, hlike]
    · simp only [Registry.find?_modify_self, hk₀, Option.map_some]

namespace Twin

theorem refl (h : Twin exact ρ t i t₀ j) : Follows exact ρ ρ t i t t₀ j t₀ :=
  ⟨h.naming.quiet (.refl _) (.refl _), h.waiting, h.pair⟩

theorem operate {α : Type} (h : Twin exact ρ t i t₀ j)
    (operation : Controller → Compositor → α × Controller × Compositor)
    (hecho : ∀ m k, (t.waiting i).isSome = false → (t₀.waiting j).isSome = false →
      t.session.controllers.find? i = some (k.withManager m) →
      t₀.session.controllers.find? j = some k →
      Controller.Twin exact ρ t.session.compositor t₀.session.compositor m k →
      ∃ σ, Controller.Echo exact ρ σ t.session.compositor t₀.session.compositor
        (operation (k.withManager m) t.session.compositor)
        (operation k t₀.session.compositor)) :
    ∃ σ, Follows exact ρ σ t i (((t.operate i operation).map (·.2)).getD t)
        t₀ j (((t₀.operate j operation).map (·.2)).getD t₀) ∧
      ∀ tell : α → Outcome, ((t.operate i operation).map fun r => tell r.1) =
        (t₀.operate j operation).map fun r => tell r.1 := by
  have hwaiting := h.waiting
  cases hw : (t.waiting i).isSome with
  | true =>
    rw [hw] at hwaiting
    simp only [operate_eq, hw, ← hwaiting]
    exact ⟨ρ, h.refl, fun _ => rfl⟩
  | false =>
    have hw₀ : (t₀.waiting j).isSome = false := hwaiting.symm.trans hw
    cases h.pair with
    | gone hk hk₀ =>
      simp only [operate_eq, hw, hw₀, hk, hk₀]
      exact ⟨ρ, h.refl, fun _ => rfl⟩
    | @both m k hk hk₀ htwin _ =>
      obtain ⟨σ, ha, hlike, hafter, hnews⟩ := hecho m k hw hw₀ hk hk₀ htwin
      simp only [operate_some operation hw hk, operate_some operation hw₀ hk₀, Option.map_some, ha]
      refine ⟨σ, .done hnews hk hk₀ hlike hafter hwaiting fun hsome => ?_, fun _ => trivial⟩
      rw [hw₀] at hsome
      cases hsome

theorem beginWait (h : Twin exact ρ t i t₀ j) (operation : CaptureOperation) :
    Follows exact ρ ρ t i (t.turn (.beginWait i operation)) t₀ j
        (t₀.turn (.beginWait j operation)) ∧
      t.outcome (.beginWait i operation) = t₀.outcome (.beginWait j operation) := by
  have hwaiting := h.waiting
  cases hw : (t.waiting i).isSome with
  | true =>
    rw [hw] at hwaiting
    simp only [turn, outcome, operate_eq, hw, ← hwaiting, if_true]
    exact ⟨h.refl, trivial⟩
  | false =>
    have hw₀ : (t₀.waiting j).isSome = false := hwaiting.symm.trans hw
    cases h.pair with
    | gone hk hk₀ =>
      simp only [turn, outcome, operate_eq, hw, hw₀, hk, hk₀]
      exact ⟨h.refl, rfl⟩
    | @both m k hk hk₀ htwin _ =>
      simp only [turn, outcome, operate_some _ hw hk, operate_some _ hw₀ hk₀]
      rcases htwin.beginWait operation with ⟨r, hr, hb, hb₀⟩ |
        ⟨o, o₀, k', d, d₀, hb, hb₀, hm, hfree, hp, hquiet, hquiet₀, hafter⟩
      · have hnews := h.naming.quiet (.refl t.session.compositor) (.refl t₀.session.compositor)
        obtain error | _ | waiter := r
        · simp only [hb, hb₀]
          refine ⟨.done hnews hk hk₀ rfl htwin hwaiting fun hsome => ?_, rfl⟩
          rw [hw₀] at hsome
          cases hsome
        · simp only [hb, hb₀]
          refine ⟨.done hnews hk hk₀ rfl htwin ?_ fun hsome => ?_, rfl⟩
          · simp only [if_true]
          · simp only [if_true, Option.isSome_none, Bool.false_eq_true] at hsome
        · exact absurd rfl (hr waiter)
      · simp only [hb, hb₀]
        have hnews := h.naming.quiet hquiet hquiet₀
        have hfree' : k'.manager.isHolding = false := hm ▸ hfree
        refine ⟨.done hnews hk hk₀ rfl hafter ?_ fun _ => ⟨hp, hfree'⟩, rfl⟩
        simp only [if_true, Option.isSome_some]

/-- Both wait for frames of outputs that differ by their names only, and neither holds a frame. -/
theorem waiters {waiter : WaiterId} (h : Twin exact ρ t i t₀ j) (hw : t.waiting i = some waiter) :
    ∃ k o o₀, t₀.waiting j = some o₀.waiter ∧ o.waiter = waiter ∧
      t.session.controllers.find? i = some (k.withManager ⟨some o⟩) ∧
      t₀.session.controllers.find? j = some k ∧ k.manager = ⟨some o₀⟩ ∧
      o₀.holder.isHolding = false ∧
      OutputManager.Twin exact false ρ t.session.compositor t₀.session.compositor
        ⟨some o⟩ ⟨some o₀⟩ := by
  have hwaiting := h.waiting
  rw [hw] at hwaiting
  obtain ⟨waiter₀, hw₀⟩ := Option.isSome_iff_exists.mp hwaiting.symm
  obtain ⟨k', o, hk', ho, rfl, -⟩ := h.calm.sound.waits i waiter hw
  obtain ⟨k₀', o₀, hk₀', ho₀, rfl, -⟩ := h.calm₀.sound.waits j waiter₀ hw₀
  cases h.pair with
  | gone hk => rw [hk] at hk'; cases hk'
  | @both m k hk hk₀ htwin hwaits =>
    obtain ⟨hp, hfree⟩ := hwaits (by rw [hw₀]; rfl)
    obtain rfl := Option.some.inj (hk.symm.trans hk')
    obtain rfl := Option.some.inj (hk₀.symm.trans hk₀')
    have hm : m = ⟨some o⟩ := congrArg OutputManager.mk ho
    have hm₀ : k.manager = ⟨some o₀⟩ := congrArg OutputManager.mk ho₀
    have hmanagers := htwin.managers
    rw [hm, hm₀, hp] at hmanagers
    rw [hm] at hk
    rw [hm₀] at hfree
    exact ⟨k, o, o₀, hw₀, rfl, hk, hk₀, hm₀, hfree, hmanagers⟩

theorem endWait (h : Twin exact ρ t i t₀ j)
    (hserved : exact = false → ∀ x, t.outcome (.endWait i) = some x ∨
      t₀.outcome (.endWait j) = some x → x.isServed = true) :
    Follows exact ρ ρ t i (t.turn (.endWait i)) t₀ j (t₀.turn (.endWait j)) ∧
      t.outcome (.endWait i) = t₀.outcome (.endWait j) := by
  cases hw : t.waiting i with
  | none =>
    have hw₀ : t₀.waiting j = none := by
      have hwaiting := h.waiting
      rw [hw] at hwaiting
      exact Option.isNone_iff_eq_none.mp (by simpa using hwaiting.symm)
    simp only [turn, outcome, hw, hw₀]
    exact ⟨h.refl, rfl⟩
  | some waiter =>
    obtain ⟨k, o, o₀, hw₀, rfl, hk, hk₀, hm₀, hfree, hmanagers⟩ := h.waiters hw
    obtain ⟨b, b₀, d, d₀, hwait, hwait₀, hquiet, hquiet₀, hsame⟩ := hmanagers.awaitNotice false
    have hnotice := Compositor.takeNotice?_of_awaitNotice hwait
    have hnotice₀ := Compositor.takeNotice?_of_awaitNotice hwait₀
    simp only [turn, outcome, hw, hw₀, hnotice, hnotice₀, Option.map_some] at hserved ⊢
    have hboth : exact = false → b = true ∧ b₀ = true := by
      intro he
      have hs := hserved he _ (.inl rfl)
      have hs₀ := hserved he _ (.inr rfl)
      cases b <;> cases b₀ <;> simp_all [Outcome.isServed]
    obtain ⟨rfl, hafter⟩ := hsame hboth
    cases b with
    | false => exact ⟨h.refl, rfl⟩
    | true =>
      have hnews := h.naming.quiet hquiet hquiet₀
      have hnoted := Controller.Twin.noteFrame hm₀ hfree hafter
      have hfun : (t.session.controllers.modify i Controller.noteFrame) =
          t.session.controllers.modify i fun _ => k.noteFrame.withManager ⟨some o⟩ :=
        Registry.modify_congr hk rfl
      have hfun₀ : (t₀.session.controllers.modify j Controller.noteFrame) =
          t₀.session.controllers.modify j fun _ => k.noteFrame :=
        Registry.modify_congr hk₀ rfl
      simp only [if_true, hfun, hfun₀]
      refine ⟨.done hnews hk hk₀ rfl hnoted ?_ fun hsome => ?_, rfl⟩
      · simp only [if_true]
      · simp only [if_true, Option.isSome_none, Bool.false_eq_true] at hsome

theorem giveUp (h : Twin exact ρ t i t₀ j) :
    Follows exact ρ ρ t i (t.turn (.giveUp i)) t₀ j (t₀.turn (.giveUp j)) := by
  refine ⟨h.naming.quiet (.refl _) (.refl _), ?_, ?_⟩
  · simp [turn, setWaiting]
  · cases h.pair with
    | gone hk hk₀ => exact .gone hk hk₀
    | both hk hk₀ htwin _ =>
      refine .both hk hk₀ htwin fun hsome => ?_
      simp [turn, setWaiting] at hsome

theorem drop (h : Twin exact ρ t i t₀ j) :
    Follows exact ρ ρ t i (t.turn (.drop i)) t₀ j (t₀.turn (.drop j)) := by
  have hwaiting := h.waiting
  simp only [turn, ← hwaiting]
  split
  next => exact h.refl
  next =>
    cases h.pair with
    | gone hk hk₀ =>
      simp only [Session.drop, hk, hk₀]
      exact h.refl
    | both hk hk₀ htwin _ =>
      have hnews := (htwin.release h.naming h.calm.compositor h.calm₀.compositor).news
      simp only [Session.drop, hk, hk₀]
      exact ⟨hnews, hwaiting, .gone (Registry.find?_erase_self _ _) (Registry.find?_erase_self _ _)⟩

theorem own (h : Twin exact ρ t i t₀ j) (ha : a.index? = some i)
    (hserved : exact = false → ∀ x, t.outcome a = some x ∨
      t₀.outcome (a.reindex j) = some x → x.isServed = true) :
    ∃ σ, Follows exact ρ σ t i (t.turn a) t₀ j (t₀.turn (a.reindex j)) ∧
      t.outcome a = t₀.outcome (a.reindex j) := by
  have hc := h.calm.compositor
  have hc₀ := h.calm₀.compositor
  cases a with
  | create | happen => cases ha
  | operate index op =>
    cases ha
    obtain ⟨σ, hfollows, htell⟩ := h.operate op.perform fun m k hw hw₀ hk hk₀ htwin =>
      htwin.perform h.naming hc hc₀ op fun he =>
        ⟨hserved he (.answered _) (.inl (by rw [outcome, operate_some _ hw hk]; rfl)),
          hserved he (.answered _)
            (.inr (by rw [SharedTurn.reindex, outcome, operate_some _ hw₀ hk₀]; rfl))⟩
    exact ⟨σ, hfollows, htell .answered⟩
  | probe index =>
    cases ha
    obtain ⟨σ, hfollows, htell⟩ := h.operate Controller.setRealProbed fun m k _ _ _ _ htwin =>
      ⟨ρ, htwin.setRealProbed h.naming hc hc₀ h.panels⟩
    exact ⟨σ, hfollows, htell .probed⟩
  | beginWait index operation =>
    cases ha
    exact ⟨ρ, h.beginWait operation⟩
  | endWait index =>
    cases ha
    exact ⟨ρ, h.endWait hserved⟩
  | giveUp index =>
    cases ha
    exact ⟨ρ, h.giveUp, rfl⟩
  | drop index =>
    cases ha
    exact ⟨ρ, h.drop, rfl⟩

end Twin

theorem Pair.look (h : Pair exact ρ t i t₀ j) :
    (t.session.controllers.find? i).map Controller.look =
      (t₀.session.controllers.find? j).map Controller.look := by
  cases h with
  | gone hk hk₀ => rw [hk, hk₀]
  | both hk hk₀ htwin _ =>
    rw [hk, hk₀]
    exact congrArg some htwin.look

theorem Follows.sight (h : Follows exact ρ σ t i (t.turn a) t₀ j (t₀.turn b))
    (ho : t.outcome a = t₀.outcome b)
    (hτ : ∀ n < (t₀.turn b).session.compositor.nextId, τ n = σ n) :
    t.sight i a = (t₀.sight j b).rename τ := by
  obtain ⟨added, hevents₀, hevents, hbelow⟩ := h.news.events
  have hmap : added.map (·.rename σ) = added.map (·.rename τ) :=
    List.map_congr_left fun e he => (Event.rename_congr (hbelow e he) hτ).symm
  simp only [Sharing.sight, Sight.rename, ho, h.pair.look, hevents, hevents₀, List.drop_left, hmap]

theorem Follows.twin (h : Follows exact ρ σ t i (t.turn a) t₀ j (t₀.turn b))
    (htwin : Twin exact ρ t i t₀ j) (ha : a.index? = some i) (hb : b.index? = some j) :
    Twin exact σ (t.turn a) i (t₀.turn b) j where
  calm := htwin.calm.turn (SharedTurn.arms_of_index ha)
  calm₀ := htwin.calm₀.turn (SharedTurn.arms_of_index hb)
  panels := by
    have honward := htwin.calm.onward (SharedTurn.arms_of_index ha)
    have honward₀ := htwin.calm₀.onward (SharedTurn.arms_of_index hb)
    rw [honward.panels, honward₀.panels, htwin.panels]
  naming := h.news.naming
  waiting := h.waiting
  pair := h.pair

end Sharing

end ScreenCapture
