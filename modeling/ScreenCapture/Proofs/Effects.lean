import ScreenCapture.Proofs.Sharing

namespace ScreenCapture

namespace SharedTurn

/-- The capture whose turn it is. -/
def index? : SharedTurn → Option Nat
  | create _ | happen _ => none
  | operate index _ | probe index | beginWait index _ | endWait index | giveUp index
  | drop index => some index

/-- The same turn of another capture. -/
def reindex (index : Nat) : SharedTurn → SharedTurn
  | operate _ op => operate index op
  | probe _ => probe index
  | beginWait _ operation => beginWait index operation
  | endWait _ => endWait index
  | giveUp _ => giveUp index
  | drop _ => drop index
  | create displayId => create displayId
  | happen x => happen x

def arms : SharedTurn → Bool
  | happen (.arm _ _) => true
  | _ => false

/-- Just a renderer goes on. -/
def IsRender (a : SharedTurn) : Prop := ∃ token, a = .happen (.render token)

theorem arms_of_index {a : SharedTurn} {index : Nat} (h : a.index? = some index) :
    a.arms = false := by
  cases a with
  | create | happen => cases h
  | operate | probe | beginWait | endWait | giveUp | drop => rfl

theorem index?_reindex {a : SharedTurn} {index : Nat} (h : a.index? = some index) (other : Nat) :
    (a.reindex other).index? = some other := by
  cases a with
  | create | happen => cases h
  | operate | probe | beginWait | endWait | giveUp | drop => rfl

end SharedTurn

namespace Sharing

theorem operate_eq {α : Type} (t : Sharing) (index : Nat)
    (operation : Controller → Compositor → α × Controller × Compositor) :
    t.operate index operation =
      if (t.waiting index).isSome then none
      else (t.session.controllers.find? index).map fun k =>
        ((operation k t.session.compositor).1,
          { t with session := { t.session with
              compositor := (operation k t.session.compositor).2.2
              controllers := t.session.controllers.modify index fun _ =>
                (operation k t.session.compositor).2.1 } }) := by
  simp only [Sharing.operate, Session.on, Option.map_map]
  rfl

/-- What a turn can come to: a capture is added, does something, does nothing or is gone, or
something else happens. -/
inductive Effect (t : Sharing) : SharedTurn → Sharing → Prop
  | created {displayId : Int32} :
      Effect t (.create displayId) { t with session := (t.session.create displayId).2 }
  | still {a : SharedTurn} {index : Nat} {waiting : Nat → Option WaiterId} :
      a.index? = some index → (∀ other, other ≠ index → waiting other = t.waiting other) →
      Effect t a { t with waiting }
  | done {a : SharedTurn} {index : Nat} {k k' : Controller} {d : Compositor}
      {waiting : Nat → Option WaiterId} : a.index? = some index →
      t.session.controllers.find? index = some k → k.Steps t.session.compositor k' d →
      (∀ other, other ≠ index → waiting other = t.waiting other) →
      Effect t a ⟨{ t.session with
        compositor := d, controllers := t.session.controllers.modify index fun _ => k' }, waiting⟩
  | dropped {index : Nat} {k k' : Controller} {d : Compositor} :
      t.session.controllers.find? index = some k → k.Steps t.session.compositor k' d →
      Effect t (.drop index) { t with session := { t.session with
        compositor := d, controllers := t.session.controllers.erase index } }
  | happened {x : Happening} : Effect t (.happen x) { t with session := { t.session with
      compositor := x.apply t.session.compositor } }

variable {t t' : Sharing} {i index : Nat} {a : SharedTurn}

theorem Effect.operate {α : Type}
    {operation : Controller → Compositor → α × Controller × Compositor}
    (hsteps : ∀ (k : Controller) c, k.Steps c (operation k c).2.1 (operation k c).2.2)
    (ha : a.index? = some index) {r : α} (ht : t.operate index operation = some (r, t')) :
    t.Effect a t' := by
  rw [operate_eq] at ht
  split at ht
  next => cases ht
  next =>
    obtain ⟨k, hk, he⟩ := Option.map_eq_some_iff.mp ht
    cases he
    exact .done ha hk (hsteps k _) fun _ _ => rfl

theorem Effect.answered {α : Type}
    {operation : Controller → Compositor → α × Controller × Compositor}
    (hsteps : ∀ (k : Controller) c, k.Steps c (operation k c).2.1 (operation k c).2.2)
    (ha : a.index? = some index) :
    t.Effect a (((t.operate index operation).map (·.2)).getD t) := by
  cases ht : t.operate index operation with
  | none => exact .still ha fun _ _ => rfl
  | some after => exact .operate hsteps ha ht

theorem Sound.effect (h : t.Sound) (a : SharedTurn) : t.Effect a (t.turn a) := by
  cases a with
  | create displayId => exact .created
  | operate index op => exact .answered (Controller.Steps.perform op) rfl
  | probe index => exact .answered Controller.Steps.setRealProbed rfl
  | beginWait index operation =>
    have hsteps (k : Controller) (c : Compositor) := (Controller.Steps.beginWait k operation c).1
    simp only [Sharing.turn]
    split
    next waiter t' ht =>
      rw [operate_eq] at ht
      split at ht
      next => cases ht
      next =>
        obtain ⟨k, hk, he⟩ := Option.map_eq_some_iff.mp ht
        obtain ⟨-, rfl⟩ := Prod.mk.inj he
        exact .done rfl hk (hsteps k _) fun other ho => if_neg ho
    next ht => exact .operate hsteps rfl ht
    next => exact .still rfl fun _ _ => rfl
  | endWait index =>
    simp only [Sharing.turn]
    split
    next => exact .still rfl fun _ _ => rfl
    next waiter hw =>
      split
      next => exact .still rfl fun _ _ => rfl
      next d hd =>
        obtain ⟨k, o, hk, hout, rfl, hrunning⟩ := h.waits index waiter hw
        have hsteps : k.Steps t.session.compositor k.noteFrame d :=
          .trans ⟨.takeNotice hout hd, fun hk => hk⟩ (.noteFrame hrunning d)
        have hfun : (t.session.controllers.modify index Controller.noteFrame) =
            t.session.controllers.modify index fun _ => k.noteFrame :=
          Registry.modify_congr hk rfl
        rw [hfun]
        exact .done rfl hk hsteps fun other ho => if_neg ho
  | giveUp index =>
    have hindex : (SharedTurn.giveUp index).index? = some index := rfl
    exact .still hindex fun other ho => if_neg ho
  | drop index =>
    simp only [Sharing.turn]
    split
    next => exact .still rfl fun _ _ => rfl
    next =>
      unfold Session.drop
      split
      next => exact .still rfl fun _ _ => rfl
      next k hk => exact .dropped hk (Controller.Steps.release k t.session.compositor)
  | happen x => exact .happened

end Sharing

namespace Session

variable {s : Session} {index i : Nat} {k k' : Controller} {d : Compositor}

/-- The stakes of all captures but one. -/
def otherStakes (s : Session) (index : Nat) : List (Site × Bool) :=
  (s.controllers.erase index).entries.flatMap fun e => e.2.manager.stake?.toList

theorem Sound.passes (h : s.Sound) (hk : s.controllers.find? index = some k)
    (hsteps : k.Steps s.compositor k' d) : s.compositor.Passes d (s.otherStakes index) := by
  have hserved := h.served.perm ((Registry.entries_perm hk).flatMap_right _).symm
  rw [List.flatMap_cons] at hserved
  exact hsteps.shifts.passes _ hserved

theorem mem_otherStakes (hk : s.controllers.find? i = some k) (hi : i ≠ index)
    {o : VirtualOutput} (ho : k.manager.output = some o) :
    (o.site, o.holder.isHolding) ∈ s.otherStakes index := by
  have hm : (i, k) ∈ (s.controllers.erase index).entries :=
    Registry.mem_erase.mpr ⟨Registry.find?_eq_some.mp hk, hi⟩
  refine List.mem_flatMap.mpr ⟨(i, k), hm, ?_⟩
  simp [OutputManager.stake?, ho]

end Session

namespace Sharing

variable {t t' : Sharing} {i index : Nat} {a : SharedTurn}

/-- The capture runs an output at the site, and this is what moves in it. -/
def Drives (t : Sharing) (i : Nat) (s : Site) (f : Feed) : Prop :=
  ∃ k o, t.session.controllers.find? i = some k ∧ k.manager.output = some o ∧ o.site = s ∧
    t.session.compositor.Drives s f

theorem Drives.unique {s s' : Site} {f f' : Feed} (h : t.Drives i s f) (h' : t.Drives i s' f') :
    s' = s ∧ f' = f := by
  obtain ⟨k, o, hk, ho, rfl, hf⟩ := h
  obtain ⟨k', o', hk', ho', rfl, hf'⟩ := h'
  obtain rfl := Option.some.inj (hk.symm.trans hk')
  obtain rfl := Option.some.inj (ho.symm.trans ho')
  exact ⟨rfl, hf'.eq hf⟩

namespace Effect

theorem nextIndex (h : t.Effect a t') : t.session.nextIndex ≤ t'.session.nextIndex := by
  cases h with
  | created => exact Nat.le_succ _
  | still | done | dropped | happened => exact Nat.le_refl _

theorem onward (h : t.Effect a t') (hs : t.Sound) (ha : a.arms = false) :
    t.session.compositor.Onward t'.session.compositor := by
  cases h with
  | created | still => exact .refl _
  | done _ hk hsteps => exact (hs.session.passes hk hsteps).onward
  | dropped hk hsteps => exact (hs.session.passes hk hsteps).onward
  | @happened x =>
    cases x with
    | arm => cases ha
    | render token => exact .renderStep _ token
    | probe id => exact .probe _ id
    | startPool => exact .startPool _

theorem others (h : t.Effect a t') (hi : i < t.session.nextIndex) (ha : a.index? ≠ some i) :
    t'.session.controllers.find? i = t.session.controllers.find? i ∧
      t'.waiting i = t.waiting i := by
  have hne {index : Nat} (h : a.index? = some index) : i ≠ index := fun he => ha (he ▸ h)
  cases h with
  | created => exact ⟨Registry.find?_insert_ne _ _ (Nat.ne_of_lt hi), rfl⟩
  | still hindex hw => exact ⟨rfl, hw i (hne hindex)⟩
  | done hindex _ _ hw =>
    exact ⟨Registry.find?_modify_ne _ _ (hne hindex), hw i (hne hindex)⟩
  | dropped => exact ⟨Registry.find?_erase_ne _ (hne rfl), rfl⟩
  | happened => exact ⟨rfl, rfl⟩

/-- Others move the output of a capture by rendering it at most. -/
theorem renders (h : t.Effect a t') (hs : t.Sound) (ha : a.index? ≠ some i) {s : Site} {f : Feed}
    (hd : t.Drives i s f) : ∃ parts, t'.session.compositor.Drives s (f.renders parts) := by
  obtain ⟨k, o, hk, ho, rfl, hf⟩ := hd
  have hne {index : Nat} (h : a.index? = some index) : i ≠ index := fun he => ha (he ▸ h)
  cases h with
  | created | still => exact ⟨[], hf⟩
  | done hindex hk' hsteps =>
    have hm := Session.mem_otherStakes hk (hne hindex) ho
    exact (hs.session.passes hk' hsteps).renders _ _ f hm hf
  | dropped hk' hsteps =>
    have hm := Session.mem_otherStakes hk (hne rfl) ho
    exact (hs.session.passes hk' hsteps).renders _ _ f hm hf
  | happened => exact hf.happen _

end Effect

theorem Sound.onward_run (h : t.Sound) (hturns : ∀ a ∈ turns, a.arms = false) :
    t.session.compositor.Onward (Sharing.run turns t).session.compositor := by
  induction turns generalizing t with
  | nil => exact .refl _
  | cons a turns ih =>
    have hfirst := (h.effect a).onward h (hturns a List.mem_cons_self)
    exact hfirst.trans (ih (h.turn a) fun b hb => hturns b (List.mem_cons_of_mem _ hb))

end Sharing

end ScreenCapture
