import ScreenCapture.Proofs.Mirroring

namespace ScreenCapture

namespace Sharing

variable {exact : Bool} {ρ σ τ : Nat → Nat} {t t' t₀ t₀' : Sharing} {i j : Nat} {a b : SharedTurn}
  {parts more : List RenderSection}

/-- What goes on in the turns of others: the output of the capture is rendered. -/
structure Leaves (i : Nat) (parts : List RenderSection) (t t' : Sharing) : Prop where
  calm : t'.IsCalm i
  onward : t.session.compositor.Onward t'.session.compositor
  capture : t'.session.controllers.find? i = t.session.controllers.find? i
  waiting : t'.waiting i = t.waiting i
  renders (s : Site) (f : Feed) : t.Drives i s f → t'.session.compositor.Drives s (f.renders parts)

namespace Leaves

theorem refl (h : t.IsCalm i) : Leaves i [] t t := by
  refine ⟨h, .refl _, rfl, rfl, fun s f hd => ?_⟩
  obtain ⟨_, _, _, _, rfl, hf⟩ := hd
  exact hf

theorem trans {t'' : Sharing} (h : Leaves i parts t t') (h' : Leaves i more t' t'') :
    Leaves i (parts ++ more) t t'' where
  calm := h'.calm
  onward := h.onward.trans h'.onward
  capture := h'.capture.trans h.capture
  waiting := h'.waiting.trans h.waiting
  renders s f hd := by
    have hfirst := h.renders s f hd
    obtain ⟨k, o, hk, ho, rfl, -⟩ := hd
    rw [Feed.renders_append]
    exact h'.renders o.site _ ⟨k, o, h.capture.trans hk, ho, rfl, hfirst⟩

end Leaves

theorem IsCalm.leaves (h : t.IsCalm i) (ha : a.arms = false) (hi : a.index? ≠ some i) :
    ∃ parts, Leaves i parts t (t.turn a) := by
  have heffect := h.sound.effect a
  obtain ⟨hcapture, hwaiting⟩ := heffect.others h.known hi
  have honward := h.onward ha
  by_cases hruns : ∃ s f, t.Drives i s f
  · obtain ⟨s, f, hd⟩ := hruns
    obtain ⟨parts, hparts⟩ := heffect.renders h.sound hi hd
    refine ⟨parts, h.turn ha, honward, hcapture, hwaiting, fun s' f' hd' => ?_⟩
    obtain ⟨rfl, rfl⟩ := hd.unique hd'
    exact hparts
  · exact ⟨[], h.turn ha, honward, hcapture, hwaiting, fun s f hd => absurd ⟨s, f, hd⟩ hruns⟩

/-- Renderers that go on do not tell the captures apart, if they go on alike or need not. -/
theorem Twin.moved (h : Twin exact ρ t i t₀ j) (hl : Leaves i parts t t')
    (hl₀ : Leaves j more t₀ t₀')
    (hid : t₀'.session.compositor.nextId = t₀.session.compositor.nextId)
    (hparts : exact = true → parts = more) : Twin exact ρ t' i t₀' j where
  calm := hl.calm
  calm₀ := hl₀.calm
  panels := by rw [hl.onward.panels, hl₀.onward.panels, h.panels]
  naming := by
    refine ⟨h.naming.mono, fun n hn => ?_⟩
    rw [hid] at hn
    exact Nat.lt_of_lt_of_le (h.naming.below n hn) hl.onward.nextId
  waiting := by rw [hl.waiting, hl₀.waiting, h.waiting]
  pair := by
    cases h.pair with
    | gone hk hk₀ => exact .gone (hl.capture.trans hk) (hl₀.capture.trans hk₀)
    | @both m k hk hk₀ htwin hwaits =>
      refine .both (hl.capture.trans hk) (hl₀.capture.trans hk₀)
        ⟨?_, htwin.running, htwin.pending, htwin.free⟩ fun hsome => ?_
      · have hmanagers := htwin.managers
        generalize hm₀ : k.manager = m₀ at hmanagers
        cases hmanagers with
        | nothing => exact .nothing
        | @output o o₀ f f₀ ho hh hf hf₀ hkin =>
          have hd : t.Drives i o.site f := ⟨_, o, hk, rfl, rfl, hf⟩
          have hd₀ : t₀.Drives j o₀.site f₀ :=
            ⟨k, o₀, hk₀, congrArg OutputManager.output hm₀, rfl, hf₀⟩
          refine .output ho ?_ (hl.renders _ _ hd) (hl₀.renders _ _ hd₀) (hkin.renders hparts)
          rw [Feed.renders_locked]
          exact hh
      · rw [hl₀.waiting] at hsome
        exact hwaits hsome

/-- The turns of one capture. -/
def turnsOf (index : Nat) (turns : List SharedTurn) : List SharedTurn :=
  turns.filter fun a => a.index? = some index

theorem turnsOf_own (ha : a.index? = some i) (turns : List SharedTurn) :
    turnsOf i (a :: turns) = a :: turnsOf i turns := List.filter_cons_of_pos (decide_eq_true ha)

theorem turnsOf_other (ha : a.index? ≠ some i) (turns : List SharedTurn) :
    turnsOf i (a :: turns) = turnsOf i turns := List.filter_cons_of_neg (by simpa using ha)

theorem turnsOf_append (rs turns : List SharedTurn) :
    turnsOf i (rs ++ turns) = turnsOf i rs ++ turnsOf i turns := List.filter_append ..

theorem sights_append {rs : List SharedTurn} (hrs : ∀ b ∈ rs, b.index? ≠ some j)
    (turns : List SharedTurn) (t : Sharing) :
    sights j (rs ++ turns) t = sights j turns (run rs t) := by
  induction rs generalizing t with
  | nil => rfl
  | cons b rs ih =>
    rw [List.cons_append, sights, if_neg (hrs b List.mem_cons_self)]
    exact ih (fun b hb => hrs b (List.mem_cons_of_mem _ hb)) (t.turn b)

/-- Time that passes for a capture alone: renderers go on, its own so many sections. -/
structure Passed (i : Nat) (parts : List RenderSection) (rs : List SharedTurn) (t : Sharing) :
    Prop where
  renders : ∀ b ∈ rs, b.IsRender
  leaves : Leaves i parts t (run rs t)
  nextId : (run rs t).session.compositor.nextId = t.session.compositor.nextId

namespace Passed

variable {rs more' : List SharedTurn}

theorem not_own (h : Passed i parts rs t) : ∀ b ∈ rs, b.index? ≠ some j := by
  intro b hb
  obtain ⟨token, rfl⟩ := h.renders b hb
  exact nofun

theorem turnsOf (h : Passed i parts rs t) : turnsOf j rs = [] :=
  List.filter_eq_nil_iff.mpr fun b hb => by simpa using h.not_own b hb

theorem nil (h : t.IsCalm i) : Passed i [] [] t := ⟨nofun, .refl h, rfl⟩

theorem append (h : Passed i parts rs t) (h' : Passed i more more' (run rs t)) :
    Passed i (parts ++ more) (rs ++ more') t := by
  have hrun : run (rs ++ more') t = run more' (run rs t) := List.foldl_append
  refine ⟨fun b hb => ?_, ?_, ?_⟩
  · exact (List.mem_append.mp hb).elim (h.renders b) (h'.renders b)
  · rw [hrun]
    exact h.leaves.trans h'.leaves
  · rw [hrun]
    exact h'.nextId.trans h.nextId

theorem render (h : t.IsCalm i) (token : DisplayToken) :
    ∃ parts, Passed i parts [.happen (.render token)] t := by
  obtain ⟨parts, hl⟩ := h.leaves (a := .happen (.render token)) rfl nofun
  refine ⟨parts, fun b hb => ⟨token, List.mem_singleton.mp hb⟩, hl, ?_⟩
  exact (Compositor.Quiet.renderStep (c := t.session.compositor)).nextId

theorem of_renders (h : t.IsCalm i) (hrs : ∀ b ∈ rs, b.IsRender) :
    ∃ parts, Passed i parts rs t := by
  induction rs generalizing t with
  | nil => exact ⟨[], .nil h⟩
  | cons b rs ih =>
    obtain ⟨token, rfl⟩ := hrs b List.mem_cons_self
    obtain ⟨parts, hfirst⟩ := render h token
    obtain ⟨more, hrest⟩ := ih hfirst.leaves.calm fun b hb => hrs b (List.mem_cons_of_mem _ hb)
    exact ⟨parts ++ more, hfirst.append hrest⟩

/-- The renderer goes on for a section, unless nothing runs or there is nothing to do. -/
theorem of_part (h : t.IsCalm i) (part : RenderSection) : ∃ rs, Passed i [part] rs t := by
  by_cases hruns : ∃ s f, t.Drives i s f
  · obtain ⟨s, f, hd⟩ := hruns
    have hf : t.session.compositor.Drives s f := by
      obtain ⟨_, _, _, _, rfl, hf⟩ := hd
      exact hf
    rcases hf.render part with hafter | hidle
    · refine ⟨[.happen (.render s.display)], fun b hb => ⟨_, List.mem_singleton.mp hb⟩, ?_, ?_⟩
      · show Leaves i [part] t (t.turn (.happen (.render s.display)))
        refine ⟨h.turn rfl, .renderStep _ _, rfl, rfl, fun s' f' hd' => ?_⟩
        obtain ⟨rfl, rfl⟩ := hd.unique hd'
        exact hafter
      · exact (Compositor.Quiet.renderStep (c := t.session.compositor)).nextId
    · refine ⟨[], nofun, ⟨h, .refl _, rfl, rfl, fun s' f' hd' => ?_⟩, rfl⟩
      obtain ⟨rfl, rfl⟩ := hd.unique hd'
      show t.session.compositor.Drives s' (f'.render part)
      rw [hidle]
      exact hf
  · refine ⟨[], nofun, ⟨h, .refl _, rfl, rfl, fun s f hd => ?_⟩, rfl⟩
    exact absurd ⟨s, f, hd⟩ hruns

theorem of_parts (h : t.IsCalm i) (parts : List RenderSection) : ∃ rs, Passed i parts rs t := by
  induction parts generalizing t with
  | nil => exact ⟨[], .nil h⟩
  | cons part parts ih =>
    obtain ⟨rs, hfirst⟩ := of_part h part
    obtain ⟨more', hrest⟩ := ih hfirst.leaves.calm
    exact ⟨rs ++ more', hfirst.append hrest⟩

end Passed

/-- Turn by turn the same is seen of a capture here and of a capture there, up to the names of
resources. -/
def Alike (ρ : Nat → Nat) (i : Nat) (turns : List SharedTurn) (t : Sharing) (j : Nat)
    (others : List SharedTurn) (t₀ : Sharing) : Prop :=
  ∃ σ : Nat → Nat, StrictMono σ ∧ (∀ n < t₀.session.compositor.nextId, σ n = ρ n) ∧
    sights i turns t = (sights j others t₀).map (·.rename σ)

variable {turns others : List SharedTurn}

theorem Alike.own (h : Twin exact ρ t i t₀ j) (ha : a.index? = some i) (hb : b.index? = some j)
    (hf : Follows exact ρ σ t i (t.turn a) t₀ j (t₀.turn b)) (ho : t.outcome a = t₀.outcome b)
    (hrest : Alike σ i turns (t.turn a) j others (t₀.turn b)) :
    Alike ρ i (a :: turns) t j (b :: others) t₀ := by
  obtain ⟨τ, hmono, hτ, hsights⟩ := hrest
  have hid := (h.calm₀.onward (SharedTurn.arms_of_index hb)).nextId
  have hkeeps (n : Nat) (hn : n < t₀.session.compositor.nextId) : τ n = ρ n :=
    (hτ n (Nat.lt_of_lt_of_le hn hid)).trans (hf.news.keeps n hn)
  refine ⟨τ, hmono, hkeeps, ?_⟩
  rw [sights, sights, if_pos ha, if_pos hb, List.map_cons, hsights, hf.sight ho hτ]

theorem Twin.alike_nil (h : Twin exact ρ t i t₀ j) (hothers : ∀ b ∈ others, b.index? ≠ some j) :
    Alike ρ i [] t j others t₀ := by
  have hnothing := sights_append hothers [] t₀
  rw [List.append_nil] at hnothing
  refine ⟨ρ, h.naming.mono, fun _ _ => rfl, ?_⟩
  rw [hnothing]
  rfl

theorem Alike.skip (ha : a.index? ≠ some i) (h : Alike ρ i turns (t.turn a) j others t₀) :
    Alike ρ i (a :: turns) t j others t₀ := by
  rw [Alike, sights, if_neg ha]
  exact h

theorem Alike.pass {rs : List SharedTurn} (hp : Passed j parts rs t₀)
    (h : Alike ρ i turns t j others (run rs t₀)) : Alike ρ i turns t j (rs ++ others) t₀ := by
  rw [Alike, hp.nextId] at h
  rw [Alike, sights_append hp.not_own]
  exact h

/-- What a capture does by itself: its own turns, while renderers go on. -/
structure IsAlone (i : Nat) (turns : List SharedTurn) (j : Nat) (alone : List SharedTurn) :
    Prop where
  own : turnsOf j alone = (turnsOf i turns).map (·.reindex j)
  only : ∀ b ∈ alone, b.index? = some j ∨ b.IsRender

namespace IsAlone

variable {alone : List SharedTurn}

theorem cons (h : IsAlone i turns j alone) (ha : a.index? = some i) :
    IsAlone i (a :: turns) j (a.reindex j :: alone) := by
  have hb := SharedTurn.index?_reindex ha j
  refine ⟨?_, List.forall_mem_cons.mpr ⟨.inl hb, h.only⟩⟩
  rw [turnsOf_own hb, turnsOf_own ha, List.map_cons, h.own]

theorem pass {rs : List SharedTurn} (h : IsAlone i turns j alone) (hp : Passed j parts rs t) :
    IsAlone i turns j (rs ++ alone) := by
  refine ⟨?_, List.forall_mem_append.mpr ⟨fun b hb => .inr (hp.renders b hb), h.only⟩⟩
  rw [turnsOf_append, hp.turnsOf, List.nil_append, h.own]

theorem skip_iff (ha : a.index? ≠ some i) :
    IsAlone i (a :: turns) j alone ↔ IsAlone i turns j alone := by
  constructor
  · exact fun h => ⟨turnsOf_other ha turns ▸ h.own, h.only⟩
  · exact fun h => ⟨(turnsOf_other ha turns).symm ▸ h.own, h.only⟩

theorem nil (h : IsAlone i [] j alone) : ∀ b ∈ alone, b.index? ≠ some j := by
  intro b hb
  simpa using List.filter_eq_nil_iff.mp h.own b hb

/-- Up to the next of its turns nothing happens but that renderers go on. -/
theorem next (h : IsAlone i (a :: turns) j alone) (ha : a.index? = some i) :
    ∃ rs rest, alone = rs ++ a.reindex j :: rest ∧ (∀ b ∈ rs, b.IsRender) ∧
      IsAlone i turns j rest := by
  have hown := h.own
  rw [turnsOf_own ha, List.map_cons] at hown
  obtain ⟨rs, rest, rfl, hothers, -, hown⟩ := List.filter_eq_cons_iff.mp hown
  have honly := List.forall_mem_append.mp h.only
  refine ⟨rs, rest, rfl, fun b hb => ?_, hown, (List.forall_mem_cons.mp honly.2).2⟩
  exact (honly.1 b hb).resolve_left fun hj => hothers b hb (decide_eq_true hj)

end IsAlone

/-- A capture could have seen by itself what it sees among others. -/
theorem Twin.mirrored (h : Twin true ρ t i t₀ j) (hturns : ∀ a ∈ turns, a.arms = false) :
    ∃ alone, IsAlone i turns j alone ∧ Alike ρ i turns t j alone t₀ := by
  induction turns generalizing ρ t t₀ with
  | nil => exact ⟨[], ⟨rfl, nofun⟩, h.alike_nil nofun⟩
  | cons a turns ih =>
    obtain ⟨harms, hrest⟩ := List.forall_mem_cons.mp hturns
    by_cases ha : a.index? = some i
    · have hb := SharedTurn.index?_reindex ha j
      obtain ⟨σ, hf, ho⟩ := h.own ha nofun
      obtain ⟨alone, halone, halike⟩ := ih (hf.twin h ha hb) hrest
      exact ⟨a.reindex j :: alone, halone.cons ha, halike.own h ha hb hf ho⟩
    · -- the sections that others brought about its renderer does of its own accord
      obtain ⟨parts, hleaves⟩ := h.calm.leaves harms ha
      obtain ⟨rs, hpassed⟩ := Passed.of_parts h.calm₀ parts
      have hmoved := h.moved hleaves hpassed.leaves hpassed.nextId fun _ => rfl
      obtain ⟨alone, halone, halike⟩ := ih hmoved hrest
      have hmore := halone.pass hpassed
      exact ⟨rs ++ alone, (IsAlone.skip_iff ha).mpr hmore, (halike.pass hpassed).skip ha⟩

/-- However renderers go on, a capture sees by itself what it sees among others, once each of its
waits was served. -/
theorem Twin.agrees (h : Twin false ρ t i t₀ j) (hturns : ∀ a ∈ turns, a.arms = false)
    {alone : List SharedTurn} (halone : IsAlone i turns j alone)
    (hserved : ∀ x ∈ sights i turns t, x.isServed)
    (hserved₀ : ∀ x ∈ sights j alone t₀, x.isServed) : Alike ρ i turns t j alone t₀ := by
  induction turns generalizing ρ t t₀ alone with
  | nil => exact h.alike_nil halone.nil
  | cons a turns ih =>
    obtain ⟨harms, hrest⟩ := List.forall_mem_cons.mp hturns
    by_cases ha : a.index? = some i
    · have hb := SharedTurn.index?_reindex ha j
      obtain ⟨rs, alone, rfl, hrs, halone⟩ := halone.next ha
      obtain ⟨parts, hpassed⟩ := Passed.of_renders h.calm₀ hrs
      have hmoved := h.moved (.refl h.calm) hpassed.leaves hpassed.nextId nofun
      rw [sights_append hpassed.not_own, sights, if_pos hb] at hserved₀
      rw [sights, if_pos ha] at hserved
      obtain ⟨hfirst, hserved⟩ := List.forall_mem_cons.mp hserved
      obtain ⟨hfirst₀, hserved₀⟩ := List.forall_mem_cons.mp hserved₀
      obtain ⟨σ, hf, ho⟩ := hmoved.own ha fun _ x hx =>
        hx.elim (isServed_outcome hfirst) (isServed_outcome hfirst₀)
      have halike := ih (hf.twin hmoved ha hb) hrest halone hserved hserved₀
      exact .pass hpassed (halike.own hmoved ha hb hf ho)
    · obtain ⟨parts, hleaves⟩ := h.calm.leaves harms ha
      have hmoved := h.moved hleaves (.refl h.calm₀) rfl nofun
      rw [sights, if_neg ha] at hserved
      exact .skip ha (ih hmoved hrest ((IsAlone.skip_iff ha).mp halone) hserved hserved₀)

theorem Sound.fresh_index (h : t.Sound) :
    t.session.controllers.find? t.session.nextIndex = none ∧
      t.waiting t.session.nextIndex = none := by
  have hnone : t.session.controllers.find? t.session.nextIndex = none :=
    Registry.find?_of_not_mem_keys fun hm => Nat.lt_irrefl _ (h.session.below _ hm)
  refine ⟨hnone, Option.eq_none_iff_forall_ne_some.mpr fun waiter hw => ?_⟩
  obtain ⟨k, _, hk, _⟩ := h.waits _ waiter hw
  rw [hnone] at hk
  cases hk

theorem Twin.created (h : t.Sound) (h₀ : t₀.Sound)
    (harmed : ∀ point, t.session.compositor.armed point = none)
    (harmed₀ : ∀ point, t₀.session.compositor.armed point = none)
    (hpanels : t.session.compositor.panels = t₀.session.compositor.panels)
    (hid : t₀.session.compositor.nextId ≤ t.session.compositor.nextId) (exact : Bool)
    (displayId : Int32) :
    Twin exact (· + (t.session.compositor.nextId - t₀.session.compositor.nextId))
      (t.turn (.create displayId)) t.session.nextIndex (t₀.turn (.create displayId))
      t₀.session.nextIndex where
  calm := ⟨h.create displayId, harmed, Nat.lt_succ_self _⟩
  calm₀ := ⟨h₀.create displayId, harmed₀, Nat.lt_succ_self _⟩
  panels := hpanels
  naming := by
    refine ⟨fun m n hmn => Nat.add_lt_add_right hmn _, fun n hn => ?_⟩
    simp only [turn, Session.create] at hn ⊢
    omega
  waiting := by
    simp only [turn, h.fresh_index.2, h₀.fresh_index.2]
  pair := by
    refine .both (m := .empty) (k := .new displayId) (Registry.find?_insert_self ..)
      (Registry.find?_insert_self ..) ⟨.nothing, rfl, rfl, by simp [Controller.new]⟩ fun hsome => ?_
    simp only [turn, h₀.fresh_index.2] at hsome
    cases hsome

/-- A capture over a compositor of its own. -/
def solo (panels : Registry Int32 Panel) (interval : Nat) (displayId : Int32) : Sharing :=
  run [.happen .startPool, .create displayId] (start (.ofPanels panels interval))

theorem Twin.solo (panels : Registry Int32 Panel) (interval : Nat)
    (hturns : ∀ a ∈ turns, a.arms = false) (exact : Bool) (displayId : Int32) :
    let t := run turns (start (.ofPanels panels interval))
    Twin exact (· + (t.session.compositor.nextId - 1)) (t.turn (.create displayId))
      t.session.nextIndex (.solo panels interval displayId) 0 := by
  intro t
  have hstart := Sound.start panels interval
  have honward := hstart.onward_run hturns
  exact .created (hstart.run turns) (hstart.turn (.happen .startPool))
    (fun point => honward.armed point rfl) (fun _ => rfl) honward.panels honward.nextId exact
    displayId

/-- Captures over one compositor without injected failures do not interfere. Whatever is done
before a capture is created and however others take turns with it, it could have seen the same by
itself, the names of resources apart; and by itself it sees nothing else, whenever renderers go on,
once all its waits are served by frames that are not too large to be locked. -/
theorem captures_isolated (panels : Registry Int32 Panel) (interval : Nat)
    (before after : List SharedTurn) (displayId : Int32)
    (h : ∀ a ∈ before ++ after, a.arms = false) :
    let t := run before (start (.ofPanels panels interval))
    let i := t.session.nextIndex
    let seen := sights i after (t.turn (.create displayId))
    let seenAlone (alone : List SharedTurn) := sights 0 alone (.solo panels interval displayId)
    (∃ alone ρ, IsAlone i after 0 alone ∧ StrictMono ρ ∧
      seen = (seenAlone alone).map (·.rename ρ)) ∧
    ∀ alone, IsAlone i after 0 alone → (∀ x ∈ seen ++ seenAlone alone, x.isServed) →
      ∃ ρ, StrictMono ρ ∧ seen = (seenAlone alone).map (·.rename ρ) := by
  intro t i seen seenAlone
  obtain ⟨hbefore, hafter⟩ := List.forall_mem_append.mp h
  have htwin (exact : Bool) := Twin.solo panels interval hbefore exact displayId
  constructor
  · obtain ⟨alone, halone, ρ, hmono, -, hseen⟩ := (htwin true).mirrored hafter
    exact ⟨alone, ρ, halone, hmono, hseen⟩
  · intro alone halone hserved
    obtain ⟨hserved, hserved₀⟩ := List.forall_mem_append.mp hserved
    obtain ⟨ρ, hmono, -, hseen⟩ := (htwin false).agrees hafter halone hserved hserved₀
    exact ⟨ρ, hmono, hseen⟩

/-- A capture comes while another one is at work, and the two take turns until the other one is
released. -/
theorem captures_isolated_interleaved :
    let small : DisplayInfo := .ofGeometry 4 2 .rotation0
    let large : DisplayInfo := .ofGeometry 6 3 .rotation90
    let before : List SharedTurn := [.create 0, .operate 0 (.setDesired large), .probe 0]
    let after : List SharedTurn :=
      [.operate 1 (.setDesired small), .operate 0 .apply, .probe 1, .operate 1 .apply,
        .operate 0 .wait, .operate 1 .wait, .operate 0 .release, .operate 1 .consume]
    let alone : List SharedTurn :=
      [.operate 0 (.setDesired small), .probe 0, .operate 0 .apply, .happen (.render 2),
        .operate 0 .wait, .operate 0 .consume]
    let seen := sights 1 after ((run before (start .standard)).turn (.create 0))
    let seenAlone := sights 0 alone (solo Compositor.standardPanels Compositor.standardInterval 0)
    (∀ a ∈ before ++ after, a.arms = false) ∧ IsAlone 1 after 0 alone ∧
      (∀ x ∈ seen ++ seenAlone, x.isServed) ∧ seen.length = 5 ∧
      ∃ ρ : Nat → Nat, StrictMono ρ ∧ seen = seenAlone.map (·.rename ρ) := by
  intro small large before after alone seen seenAlone
  have harms : ∀ a ∈ before ++ after, a.arms = false := by decide
  have hserved : ∀ x ∈ seen ++ seenAlone, x.isServed := by decide
  have halone : IsAlone 1 after 0 alone := by
    refine ⟨rfl, fun b hb => ?_⟩
    simp only [alone, List.mem_cons, List.not_mem_nil, or_false] at hb
    obtain rfl | rfl | rfl | rfl | rfl | rfl := hb
    case inr.inr.inr.inl => exact .inr ⟨2, rfl⟩
    all_goals exact .inl rfl
  exact ⟨harms, halone, hserved, rfl, (captures_isolated Compositor.standardPanels
    Compositor.standardInterval before after 0 harms).2 alone halone hserved⟩

end Sharing

end ScreenCapture
