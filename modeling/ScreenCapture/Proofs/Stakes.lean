import ScreenCapture.Proofs.Accounting
import ScreenCapture.Proofs.Capturing
import ScreenCapture.Proofs.Passing

namespace ScreenCapture

/-- The sites of some outputs, and which of them have their buffer locked. -/
def Feeds.stakes (feeds : Feeds) : List (Site × Bool) := feeds.map fun e => (e.1, e.2.locked)

/-- What a manager has in its compositor. -/
def OutputManager.stake? (m : OutputManager) : Option (Site × Bool) :=
  m.output.map fun o => (o.site, o.holder.isHolding)

namespace Compositor

/-- The compositor hosts those outputs that somebody has a stake in. -/
def Serves (c : Compositor) (stakes : List (Site × Bool)) : Prop :=
  ∃ feeds, c.Hosts feeds ∧ stakes.Perm feeds.stakes

variable {c d e : Compositor} {feeds : Feeds} {s : Site} {f g : Feed} {locked : Bool}
  {stakes rest : List (Site × Bool)}

theorem Serves.perm (h : c.Serves stakes) (hp : rest.Perm stakes) : c.Serves rest := by
  obtain ⟨feeds, hc, hf⟩ := h
  exact ⟨feeds, hc, hp.trans hf⟩

theorem Serves.own (h : c.Serves ((s, locked) :: rest)) :
    ∃ feeds f, c.Hosts feeds ∧ (s, f) ∈ feeds ∧ f.locked = locked ∧
      ((s, f.locked) :: rest).Perm feeds.stakes := by
  obtain ⟨feeds, hc, hp⟩ := h
  obtain ⟨⟨s', f⟩, hm, he⟩ := List.mem_map.mp (hp.subset List.mem_cons_self)
  cases he
  exact ⟨feeds, f, hc, hm, rfl, hp⟩

theorem stakes_middle {before after : Feeds} :
    Feeds.stakes (before ++ (s, f) :: after) |>.Perm
      ((s, f.locked) :: Feeds.stakes (before ++ after)) := by
  simp only [Feeds.stakes, List.map_append, List.map_cons]
  exact List.perm_middle

/-- What moves at one site leaves the other stakes as they are. -/
theorem Hosts.serves_put (h : c.Hosts feeds) (hm : (s, f) ∈ feeds)
    (hp : ((s, f.locked) :: rest).Perm feeds.stakes) (hd : d.Hosts (feeds.put s g)) :
    d.Serves ((s, g.locked) :: rest) := by
  refine ⟨_, hd, ?_⟩
  obtain ⟨before, after, rfl⟩ := List.append_of_mem hm
  rw [Feeds.put_append_cons h.sites_nodup]
  have hrest := (hp.trans stakes_middle).cons_inv
  exact (hrest.cons _).trans stakes_middle.symm

theorem Hosts.serves_without (h : c.Hosts feeds) (hm : (s, f) ∈ feeds)
    (hp : ((s, f.locked) :: rest).Perm feeds.stakes) : (c.without s).Serves rest := by
  refine ⟨_, h.without hm, ?_⟩
  obtain ⟨before, after, rfl⟩ := List.append_of_mem hm
  rw [Registry.filter_append_cons h.sites_nodup]
  exact (hp.trans stakes_middle).cons_inv

theorem Serves.hosting (h : c.Serves rest) (p : OutputParams) :
    (c.hosting p).Serves ((c.nextSite p, false) :: rest) := by
  obtain ⟨feeds, hc, hp⟩ := h
  refine ⟨_, hc.hosting p, ?_⟩
  have hadd : Feeds.stakes (feeds ++ [(c.nextSite p, .fresh)]) =
      feeds.stakes ++ [(c.nextSite p, false)] := by
    simp [Feeds.stakes, Feed.fresh]
  rw [hadd]
  exact (hp.cons _).trans (List.perm_append_singleton _ _).symm

theorem stakes_renderFrame (feeds : Feeds) :
    Feeds.stakes (feeds.map fun e => (e.1, e.2.renderFrame)) = feeds.stakes := by
  simp [Feeds.stakes, Feed.renderFrame, Feed.renders_locked]

/-- Whatever else happens, stakes are as before. -/
theorem Serves.failedAt (h : c.Serves rest) (stage : SetupStage) :
    (c.failedAt stage).Serves rest := by
  obtain ⟨feeds, hosts, hp⟩ := h
  exact ⟨feeds, hosts.failedAt stage, hp⟩

/-- A set-up is refused, fails at a stage, or adds an output. -/
theorem Serves.build_cases (h : c.Serves rest) (p : OutputParams) :
    (∃ error, VirtualOutput.build c p = (.error error, c)) ∨
      (∃ error stage, VirtualOutput.build c p = (.error error, c.failedAt stage)) ∨
        VirtualOutput.build c p = (.ok (c.nextOutput p), c.hosting p) := by
  obtain ⟨feeds, hosts, _⟩ := h
  rw [VirtualOutput.build_eq hosts.unused p]
  split
  next => exact .inl ⟨_, rfl⟩
  next =>
    cases c.failingStage? with
    | some failing => exact .inr (.inl ⟨_, failing.1, rfl⟩)
    | none => exact .inr (.inr rfl)

theorem Serves.happen (h : c.Serves stakes) (x : Happening) : (x.apply c).Serves stakes := by
  obtain ⟨feeds, hc, hp⟩ := h
  rcases hc.happen x with hd | ⟨s, f, part, hm, hd⟩
  · exact ⟨feeds, hd, hp⟩
  · have hstakes := List.perm_cons_erase (hp.symm.subset (List.mem_map_of_mem hm))
    have hput := hc.serves_put hm (hstakes.symm.trans hp) hd
    rw [Feed.render_locked] at hput
    exact hput.perm hstakes

theorem Booked.happen (h : c.Booked) (x : Happening) : (x.apply c).Booked := by
  cases x with
  | arm point status => exact h.quiet (.arm point status)
  | render token => exact h.quiet .renderStep
  | probe id => exact h.quiet (.probe id)
  | startPool => exact h.startPool

/-- What those notice who have the other stakes: their outputs are rendered at most. -/
structure Passes (c d : Compositor) (rest : List (Site × Bool)) : Prop where
  onward : c.Onward d
  renders (s : Site) (locked : Bool) (f : Feed) : (s, locked) ∈ rest → c.Drives s f →
    ∃ parts, d.Drives s (f.renders parts)

theorem Passes.refl (c : Compositor) (rest : List (Site × Bool)) : c.Passes c rest :=
  ⟨.refl c, fun _ _ _ _ h => ⟨[], h⟩⟩

theorem Passes.trans (h : c.Passes d rest) (h' : d.Passes e rest) : c.Passes e rest where
  onward := h.onward.trans h'.onward
  renders s locked f hr hf := by
    obtain ⟨parts, hd⟩ := h.renders s locked f hr hf
    obtain ⟨more, he⟩ := h'.renders s locked _ hr hd
    rw [← Feed.renders_append] at he
    exact ⟨parts ++ more, he⟩

theorem Passes.failedAt (c : Compositor) (rest : List (Site × Bool)) (stage : SetupStage) :
    c.Passes (c.failedAt stage) rest := by
  refine ⟨.failedAt c stage, fun s _ f _ hf => ?_⟩
  obtain ⟨feeds, hosts, hm⟩ := hf
  exact ⟨[], feeds, hosts.failedAt stage, hm⟩

theorem Passes.hosting (c : Compositor) (rest : List (Site × Bool)) (p : OutputParams) :
    c.Passes (c.hosting p) rest := by
  refine ⟨.hosting c p, fun s _ f _ hf => ?_⟩
  obtain ⟨feeds, hosts, hm⟩ := hf
  exact ⟨[], _, hosts.hosting p, List.mem_append_left _ hm⟩

/-- Whoever has a stake leaves the others alone by leaving alone what is not at its site. -/
theorem Serves.passes (h : c.Serves ((s, locked) :: rest)) (ho : c.Onward d)
    (hd : ∀ feeds f, c.Hosts feeds → (s, f) ∈ feeds → f.locked = locked → ∃ feeds', d.Hosts feeds' ∧
      ∀ other g, (other, g) ∈ feeds → other ≠ s → ∃ parts, (other, g.renders parts) ∈ feeds') :
    c.Passes d rest := by
  refine ⟨ho, fun other b g hr hg => ?_⟩
  obtain ⟨feeds, f, hosts, hin, hl, hp⟩ := h.own
  obtain ⟨feeds', hosts', hothers⟩ := hd feeds f hosts hin hl
  obtain ⟨⟨site, g'⟩, hm, he⟩ := List.mem_map.mp (hp.subset (List.mem_cons_of_mem _ hr))
  cases he
  obtain rfl := hg.feed_eq hosts hm
  have hne : site ≠ s := by
    -- no two stakes are at one site
    have hn : (feeds.stakes.map (·.1)).Nodup := by
      rw [Feeds.stakes, List.map_map]
      exact hosts.sites_nodup
    have hn' := (hp.map (·.1)).nodup_iff.mpr hn
    rintro rfl
    exact (List.nodup_cons.mp hn').1 (List.mem_map.mpr ⟨_, hr, rfl⟩)
  obtain ⟨parts, hm'⟩ := hothers site _ hm hne
  exact ⟨parts, feeds', hosts', hm'⟩

end Compositor

namespace FrameHolder

variable (holder : FrameHolder) (c : Compositor) (queue : QueueId)

theorem quiet_lockNext : c.Quiet (holder.lockNext (Compositor.source queue) c).2.2 := by
  have hlock := Compositor.Quiet.lock (c := c) queue
  simp only [lockNext, Compositor.source]
  split
  next => exact .refl c
  next =>
    generalize c.lock queue = locked at hlock ⊢
    obtain ⟨_ | buffer, d⟩ := locked
    · exact hlock
    · simp only
      cases buffer.size? with
      | none => exact hlock.trans (.unlock queue)
      | some _ => exact hlock

theorem quiet_unlock : c.Quiet (holder.unlock (Compositor.source queue) c).2.2 := by
  cases hh : holder.held with
  | none =>
    simp only [unlock, hh]
    exact .refl c
  | some buffer =>
    simp only [unlock, hh, Compositor.source]
    exact .unlock queue

end FrameHolder

namespace VirtualOutput

variable {c : Compositor}

theorem booked_configure (h : c.Booked) (queue : QueueId) (p : OutputParams) :
    (configure c queue p).2.Booked := by
  have hsync := h.quiet (.disableAsync queue)
  unfold configure
  generalize c.disableAsync queue = r at hsync ⊢
  obtain ⟨_ | _, d⟩ := r
  · exact hsync
  · have hsize := Compositor.Booked.quiet hsync
      (.setSize queue p.desiredWidth p.desiredHeight)
    simp only
    generalize d.setSize queue p.desiredWidth p.desiredHeight = r at hsize ⊢
    obtain ⟨_ | _, e⟩ := r
    · exact hsize
    · exact Compositor.Booked.quiet hsize (.setFormat queue pixelFormat)

theorem booked_publish (h : c.Booked) (queue : QueueId) (p : OutputParams) :
    (publish c queue p).2.Booked := by
  have hnew := h.newDisplay
  unfold publish
  generalize c.newDisplay = r at hnew ⊢
  obtain ⟨_ | token, d⟩ := r
  · exact hnew
  · have happly := Compositor.Booked.applyTransaction hnew token queue p.projection
    simp only
    generalize d.applyTransaction token queue p.projection = r at happly ⊢
    obtain ⟨_ | _, e⟩ := r
    · exact Compositor.Booked.destroyDisplay happly token
    · exact happly

theorem booked_attach (h : c.Booked) (queue : QueueId) (p : OutputParams) :
    (attach c queue p).2.Booked := by
  have hreader := h.newReader queue 1
  unfold attach
  generalize c.newReader queue 1 = r at hreader ⊢
  obtain ⟨_ | _, d⟩ := r
  · exact hreader
  · have hheard := (Compositor.Booked.quiet hreader .newWaiter).quiet
      (.listen queue d.newWaiter.1)
    have hpublish := booked_publish hheard queue p
    simp only
    generalize publish (d.newWaiter.2.listen queue d.newWaiter.1) queue p = r at hpublish ⊢
    obtain ⟨_ | _, e⟩ := r
    · exact Compositor.Booked.quiet hpublish (.dropWaiter _)
    · exact hpublish

theorem booked_build (h : c.Booked) (p : OutputParams) : (build c p).2.Booked := by
  unfold build
  split
  next => exact h
  next =>
    have hconnect := h.quiet .connect
    generalize c.connect = r at hconnect ⊢
    obtain ⟨_ | _, d⟩ := r
    · exact hconnect
    · have hnew := Compositor.Booked.newQueue hconnect
      simp only [onNewQueue]
      generalize d.newQueue = r at hnew ⊢
      obtain ⟨_ | queue, e⟩ := r
      · exact hnew
      · have hconfigure := booked_configure hnew queue p
        simp only
        generalize configure e queue p = r at hconfigure ⊢
        obtain ⟨_ | _, e⟩ := r
        · exact Compositor.Booked.dropQueue hconfigure queue
        · have hattach := booked_attach hconfigure queue p
          simp only
          generalize attach e queue p = r at hattach ⊢
          obtain ⟨_ | _, e⟩ := r
          · exact Compositor.Booked.dropQueue hattach queue
          · exact hattach

theorem booked_tearDown (h : c.Booked) (o : VirtualOutput) : (o.tearDown c).Booked := by
  have hunlock := h.quiet (o.holder.quiet_unlock c o.queue)
  have hdisconnect := (hunlock.destroyDisplay o.display).quiet (.disconnect o.queue)
  exact (hdisconnect.dropQueue o.queue).quiet (.dropWaiter o.waiter)

end VirtualOutput

namespace OutputManager

/-- Of all stakes in a compositor only that of the manager changes. -/
structure Shifts (m : OutputManager) (c : Compositor) (m' : OutputManager) (d : Compositor) :
    Prop where
  serves (rest : List (Site × Bool)) :
    c.Serves (m.stake?.toList ++ rest) → d.Serves (m'.stake?.toList ++ rest)
  booked : c.Booked → d.Booked
  passes (rest : List (Site × Bool)) : c.Serves (m.stake?.toList ++ rest) → c.Passes d rest

namespace Shifts

variable {m m' m'' : OutputManager} {c d e : Compositor}

theorem refl (m : OutputManager) (c : Compositor) : m.Shifts c m c :=
  ⟨fun _ h => h, fun h => h, fun rest _ => .refl c rest⟩

theorem trans (h : m.Shifts c m' d) (h' : m'.Shifts d m'' e) : m.Shifts c m'' e where
  serves rest hc := h'.serves rest (h.serves rest hc)
  booked hc := h'.booked (h.booked hc)
  passes rest hc := (h.passes rest hc).trans (h'.passes rest (h.serves rest hc))

theorem probe (m : OutputManager) (c : Compositor) (id : Int32) : m.Shifts c m (c.probe id).2 where
  serves _ h := h.happen (.probe id)
  booked h := h.happen (.probe id)
  passes _ _ := ⟨.probe c id, fun _ _ _ _ ⟨feeds, hc, hm⟩ => ⟨[], feeds, hc.probe id, hm⟩⟩

theorem destroy (m : OutputManager) (c : Compositor) :
    m.Shifts c (m.destroy c).1 (m.destroy c).2 := by
  cases hm : m.output with
  | none =>
    simp only [OutputManager.destroy, hm]
    exact refl m c
  | some o =>
    simp only [OutputManager.destroy, hm]
    refine ⟨fun rest hc => ?_, fun h => VirtualOutput.booked_tearDown h o, fun rest hc => ?_⟩
    · simp only [stake?, hm] at hc
      obtain ⟨feeds, f, hosts, hin, _, hp⟩ := Compositor.Serves.own hc
      rw [VirtualOutput.tearDown_eq hosts hin]
      exact hosts.serves_without hin hp
    · simp only [stake?, hm] at hc
      obtain ⟨_, _, hosts, hin, _, _⟩ := Compositor.Serves.own hc
      rw [VirtualOutput.tearDown_eq hosts hin]
      refine hc.passes (.without c o.site) fun feeds f hosts hin _ => ⟨_, hosts.without hin, ?_⟩
      exact fun other g hm hne => ⟨[], List.mem_filter.mpr ⟨hm, by simpa using hne⟩⟩

theorem destroy_output (m : OutputManager) (c : Compositor) : (m.destroy c).1.output = none := by
  unfold OutputManager.destroy
  split
  next hm => exact hm
  next => rfl

/-- A set-up adds the stake of the new output, or none. -/
theorem build {m : OutputManager} (hm : m.output = none) (c : Compositor) (p : OutputParams) :
    (∀ error d, VirtualOutput.build c p = (.error error, d) → m.Shifts c m d) ∧
      ∀ o d, VirtualOutput.build c p = (.ok o, d) → m.Shifts c ⟨some o⟩ d := by
  have hnone : m.stake?.toList = [] := by simp [stake?, hm]
  have hrest (rest : List (Site × Bool)) (hc : c.Serves (m.stake?.toList ++ rest)) :
      c.Serves rest := by
    rwa [hnone, List.nil_append] at hc
  have hbooked (h : c.Booked) := VirtualOutput.booked_build h p
  refine ⟨fun error d hd => ⟨fun rest hc => ?_, fun h => ?_, fun rest hc => ?_⟩,
    fun o d hd => ⟨fun rest hc => ?_, fun h => ?_, fun rest hc => ?_⟩⟩
  · have hserved := hrest rest hc
    rw [hnone, List.nil_append]
    rcases hserved.build_cases p with ⟨_, hbuild⟩ | ⟨_, stage, hbuild⟩ | hbuild
    · cases hbuild.symm.trans hd
      exact hserved
    · cases hbuild.symm.trans hd
      exact hserved.failedAt stage
    · cases hbuild.symm.trans hd
  · simpa only [hd] using hbooked h
  · rcases (hrest rest hc).build_cases p with ⟨_, hbuild⟩ | ⟨_, stage, hbuild⟩ | hbuild
    · cases hbuild.symm.trans hd
      exact .refl c rest
    · cases hbuild.symm.trans hd
      exact .failedAt c rest stage
    · cases hbuild.symm.trans hd
  · have hserved := hrest rest hc
    rcases hserved.build_cases p with ⟨_, hbuild⟩ | ⟨_, _, hbuild⟩ | hbuild
    · cases hbuild.symm.trans hd
    · cases hbuild.symm.trans hd
    · cases hbuild.symm.trans hd
      exact hserved.hosting p
  · simpa only [hd] using hbooked h
  · rcases (hrest rest hc).build_cases p with ⟨_, hbuild⟩ | ⟨_, _, hbuild⟩ | hbuild
    · cases hbuild.symm.trans hd
    · cases hbuild.symm.trans hd
    · cases hbuild.symm.trans hd
      exact .hosting c rest p

theorem create (m : OutputManager) (c : Compositor) (p : OutputParams) :
    m.Shifts c (m.create c p).2.1 (m.create c p).2.2 := by
  refine (destroy m c).trans ?_
  have hb := build (destroy_output m c) (m.destroy c).2 p
  unfold OutputManager.create
  generalize m.destroy c = cleared at hb ⊢
  obtain ⟨m1, c1⟩ := cleared
  simp only at hb ⊢
  generalize VirtualOutput.build c1 p = built at hb ⊢
  obtain ⟨_ | o, d⟩ := built
  · exact hb.1 _ d rfl
  · exact hb.2 o d rfl

theorem reconfigure (m : OutputManager) (c : Compositor) (p : OutputParams) :
    m.Shifts c (m.reconfigure c p).2.1 (m.reconfigure c p).2.2 :=
  (destroy m c).trans (create (m.destroy c).1 (m.destroy c).2 p)

theorem lockNext {r : Except CaptureError LockedBuffer}
    (h : m.lockNext c = some (r, m', d)) : m.Shifts c m' d := by
  obtain ⟨o, ho, he⟩ := Option.map_eq_some_iff.mp h
  have hquiet := o.holder.quiet_lockNext c o.queue
  generalize hl : o.holder.lockNext (Compositor.source o.queue) c = locked at he hquiet
  obtain ⟨_, holder, _⟩ := locked
  cases he
  refine ⟨fun rest hc => ?_, fun hb => hb.quiet hquiet, fun rest hc => ?_⟩
  · simp only [stake?, ho] at hc
    obtain ⟨feeds, f, hosts, hin, hheld, hp⟩ := Compositor.Serves.own hc
    obtain ⟨r, held, d, g, hlock, _, hg, _, hd⟩ := hosts.lockNext hin hheld.symm
    rw [VirtualOutput.site_queue, hl] at hlock
    cases hlock
    have hput := hosts.serves_put hin hp hd
    rw [← hg] at hput
    exact hput
  · simp only [stake?, ho] at hc
    have honward := Compositor.Onward.lockNext c o.holder o.queue
    rw [hl] at honward
    refine hc.passes honward fun feeds f hosts hin hheld => ?_
    obtain ⟨r, held, d, g, hlock, _, _, _, hd⟩ := hosts.lockNext hin hheld.symm
    rw [VirtualOutput.site_queue, hl] at hlock
    cases hlock
    exact ⟨_, hd, fun other f' hm hne => ⟨[], Feeds.mem_put_ne hm hne g⟩⟩

theorem unlock {b : Bool} (h : m.unlock c = some (b, m', d)) : m.Shifts c m' d := by
  obtain ⟨o, ho, he⟩ := Option.map_eq_some_iff.mp h
  have hquiet := o.holder.quiet_unlock c o.queue
  generalize hu : o.holder.unlock (Compositor.source o.queue) c = unlocked at he hquiet
  obtain ⟨_, holder, _⟩ := unlocked
  cases he
  refine ⟨fun rest hc => ?_, fun hb => hb.quiet hquiet, fun rest hc => ?_⟩
  · simp only [stake?, ho] at hc
    obtain ⟨feeds, f, hosts, hin, hheld, hp⟩ := Compositor.Serves.own hc
    cases hh : o.holder.held with
    | none =>
      simp only [FrameHolder.unlock, hh] at hu
      cases hu
      exact hc
    | some buffer =>
      obtain ⟨φ, hunlock, hφ⟩ := hosts.unlock_snd hin
      rw [VirtualOutput.site_queue] at hunlock
      simp only [FrameHolder.unlock, hh, Compositor.source, hunlock] at hu
      cases hu
      exact hosts.serves_put hin hp (hosts.modifyChannel hin hφ rfl rfl)
  · simp only [stake?, ho] at hc
    have honward := Compositor.Onward.unlockHeld c o.holder o.queue
    have hunlock := fun feeds f (hosts : c.Hosts feeds) (hin : (o.site, f) ∈ feeds) =>
      hosts.holder_unlock hin o.holder
    rw [VirtualOutput.site_queue, hu] at hunlock
    rw [hu] at honward
    refine hc.passes honward fun feeds f hosts hin _ => ?_
    obtain ⟨φ, g, rfl, hφ, hstage, hpending⟩ := hunlock feeds f hosts hin
    exact ⟨_, hosts.modifyChannel hin hφ hstage hpending,
      fun other f' hm hne => ⟨[], Feeds.mem_put_ne hm hne g⟩⟩

theorem awaitNotice {o : VirtualOutput} (ho : m.output = some o) (c : Compositor)
    (arrives : Bool) : m.Shifts c m (c.awaitNotice o.waiter arrives).2 := by
  refine ⟨fun rest hc => ?_, fun hb => hb.quiet (.awaitNotice o.waiter arrives),
    fun rest hc => ?_⟩
  · simp only [stake?, ho] at hc ⊢
    obtain ⟨feeds, f, hosts, hin, hheld, hp⟩ := Compositor.Serves.own hc
    obtain ⟨b, d, g, feeds', hwait, hnotice, hd, hfeeds⟩ := hosts.awaitNotice hin arrives
    rw [VirtualOutput.site_waiter] at hwait
    rw [hwait]
    have hg : d.Serves ((o.site, g.locked) :: rest) := by
      rcases hfeeds with rfl | rfl
      · exact hosts.serves_put hin hp hd
      · refine hosts.renderAll.serves_put (Feeds.renderFrame_mem hin) ?_ hd
        rw [Compositor.stakes_renderFrame, Feed.renderFrame, Feed.renders_locked]
        exact hp
    rw [hnotice.locked, hheld] at hg
    exact hg
  · simp only [stake?, ho] at hc
    refine hc.passes (.awaitNotice c o.waiter arrives) fun feeds f hosts hin _ => ?_
    obtain ⟨b, d, g, feeds', hwait, _, hd, hfeeds⟩ := hosts.awaitNotice hin arrives
    rw [VirtualOutput.site_waiter] at hwait
    rw [hwait]
    refine ⟨_, hd, fun other f' hm hne => ?_⟩
    rcases hfeeds with rfl | rfl
    · exact ⟨[], Feeds.mem_put_ne hm hne g⟩
    · exact ⟨_, Feeds.mem_put_ne (Feeds.renderFrame_mem hm) hne g⟩

theorem takeNotice {o : VirtualOutput} (ho : m.output = some o)
    (h : c.takeNotice? o.waiter = some d) : m.Shifts c m d := by
  have hawait := awaitNotice ho c false
  simpa only [Compositor.awaitNotice, h] using hawait

end Shifts

end OutputManager

end ScreenCapture
