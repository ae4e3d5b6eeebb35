import Mathlib.Data.List.Nodup
import ScreenCapture.Proofs.Feed
import ScreenCapture.Proofs.RegistryLaws

namespace ScreenCapture

/-- Running outputs with what moves in them, in the order in which they were set up. -/
abbrev Feeds := List (Site × Feed)

/-- Replaces what moves at a site. -/
def Feeds.put (feeds : Feeds) (s : Site) (f : Feed) : Feeds :=
  feeds.map fun e => if e.1 = s then (s, f) else e

theorem Feeds.put_sites (feeds : Feeds) (s : Site) (f : Feed) :
    (feeds.put s f).map (·.1) = feeds.map (·.1) := by
  simp only [put, List.map_map]
  apply List.map_congr_left
  intro e _
  simp only [Function.comp]
  split
  next h => exact h.symm
  next => rfl

theorem Feeds.put_singleton (s : Site) (f g : Feed) : Feeds.put [(s, f)] s g = [(s, g)] := by
  simp [put]

theorem Feeds.put_put (feeds : Feeds) (s : Site) (f g : Feed) :
    (feeds.put s f).put s g = feeds.put s g := by
  simp only [put, List.map_map]
  apply List.map_congr_left
  intro e _
  simp only [Function.comp]
  by_cases hs : e.1 = s <;> simp [hs]

theorem Feeds.put_of_absent {feeds : Feeds} {s : Site} (hs : s ∉ feeds.map (·.1)) (f : Feed) :
    feeds.put s f = feeds := by
  refine (List.map_congr_left ?_).trans (List.map_id _)
  intro e he
  have hne : e.1 ≠ s := fun h => hs (List.mem_map.mpr ⟨e, he, h⟩)
  simp [hne]

theorem Feeds.put_append_cons {before after : Feeds} {s : Site} {f : Feed}
    (hn : ((before ++ (s, f) :: after).map (·.1)).Nodup) (g : Feed) :
    Feeds.put (before ++ (s, f) :: after) s g = before ++ (s, g) :: after := by
  rw [List.map_append, List.map_cons, List.nodup_append] at hn
  obtain ⟨_, hafter, hdisjoint⟩ := hn
  have hb : s ∉ before.map (·.1) := fun hs => hdisjoint s hs s List.mem_cons_self rfl
  have ha : s ∉ after.map (·.1) := (List.nodup_cons.mp hafter).1
  calc Feeds.put (before ++ (s, f) :: after) s g
      = before.put s g ++ (s, g) :: after.put s g := by simp [put]
    _ = before ++ (s, g) :: after := by rw [put_of_absent hb, put_of_absent ha]

theorem Feeds.mem_put {feeds : Feeds} {s : Site} {f : Feed} (g : Feed) (hm : (s, f) ∈ feeds) :
    (s, g) ∈ feeds.put s g :=
  List.mem_map.mpr ⟨(s, f), hm, by simp⟩

namespace Registry

variable {κ α : Type} [DecidableEq κ] {r : Registry κ α} {feeds : Feeds} {key : Site → κ}
  {value : Site → Feed → α} {s : Site} {f g : Feed}

/-- A registry that holds one value for each running output, and no other. -/
def Covers (r : Registry κ α) (feeds : Feeds) (key : Site → κ) (value : Site → Feed → α) : Prop :=
  r.entries = feeds.map fun e => (key e.1, value e.1 e.2)

omit [DecidableEq κ] in
theorem empty_covers : (empty : Registry κ α).Covers [] key value := rfl

theorem Covers.find? (h : r.Covers feeds key value) (hm : (s, f) ∈ feeds) :
    r.find? (key s) = some (value s f) := by
  apply find?_of_mem
  rw [h]
  exact List.mem_map.mpr ⟨(s, f), hm, rfl⟩

theorem Covers.find?_none (h : r.Covers feeds key value) {k : κ} (hk : ∀ e ∈ feeds, key e.1 ≠ k) :
    r.find? k = none := by
  apply find?_eq_none.mpr
  intro e he
  rw [h] at he
  obtain ⟨d, hd, rfl⟩ := List.mem_map.mp he
  exact hk d hd

omit [DecidableEq κ] in
theorem Covers.eq_of_key (h : r.Covers feeds key value) {d e : Site × Feed} (hd : d ∈ feeds)
    (he : e ∈ feeds) (hk : key d.1 = key e.1) : d = e := by
  have hn := r.nodup
  rw [h, List.map_map] at hn
  exact List.inj_on_of_nodup_map hn hd he hk

theorem Covers.modify (h : r.Covers feeds key value) (hm : (s, f) ∈ feeds) {φ : α → α}
    (hv : φ (value s f) = value s g) : (r.modify (key s) φ).Covers (feeds.put s g) key value := by
  simp only [Covers, Registry.modify, Feeds.put, List.map_map]
  rw [h, List.map_map]
  apply List.map_congr_left
  intro e he
  simp only [Function.comp]
  by_cases hs : e.1 = s
  · have heq : e = (s, f) := h.eq_of_key he hm (congrArg key hs)
    subst heq
    simp [hv]
  · have hk : key e.1 ≠ key s := fun hk => hs (congrArg (·.1) (h.eq_of_key he hm hk))
    simp [hs, hk]

omit [DecidableEq κ] in
theorem Covers.keep (h : r.Covers feeds key value) (hm : (s, f) ∈ feeds)
    (hv : value s f = value s g) : r.Covers (feeds.put s g) key value := by
  simp only [Covers, Feeds.put, List.map_map]
  rw [h]
  apply List.map_congr_left
  intro e he
  simp only [Function.comp]
  by_cases hs : e.1 = s
  · have heq : e = (s, f) := h.eq_of_key he hm (congrArg key hs)
    subst heq
    simp [hv]
  · simp [hs]

theorem Covers.insert (h : r.Covers feeds key value) (hk : r.find? (key s) = none) (f : Feed) :
    (r.insert (key s) (value s f)).Covers (feeds ++ [(s, f)]) key value := by
  simp only [Covers, Registry.insert, erase_of_absent hk, List.map_append, List.map_cons,
    List.map_nil]
  rw [h]

theorem Covers.erase (h : r.Covers feeds key value) (hm : (s, f) ∈ feeds) :
    (r.erase (key s)).Covers (feeds.filter (·.1 ≠ s)) key value := by
  simp only [Covers, Registry.erase]
  rw [h, List.filter_map]
  congr 1
  apply List.filter_congr
  intro e he
  have hiff : key e.1 = key s ↔ e.1 = s :=
    ⟨fun hk => congrArg (·.1) (h.eq_of_key he hm hk), fun hs => congrArg key hs⟩
  simp [Function.comp, hiff]

end Registry

namespace Compositor

/-- The compositor hosts the given outputs, and nothing else. -/
structure Hosts (c : Compositor) (feeds : Feeds) : Prop where
  channels : c.channels.Covers feeds Site.queue Site.channel
  displays : c.displays.Covers feeds Site.display Site.shown
  waiters : c.waiters.Covers feeds Site.waiter fun _ f => ⟨f.pending⟩
  below : ∀ e ∈ feeds, e.1.queue < c.nextId ∧ e.1.display < c.nextId ∧ e.1.waiter < c.nextWaiter

variable {c : Compositor} {feeds : Feeds} {s : Site} {f g : Feed}

theorem ofPanels_hosts (panels : Registry Int32 Panel) (interval : Nat) :
    (ofPanels panels interval).Hosts [] :=
  ⟨Registry.empty_covers, Registry.empty_covers, Registry.empty_covers, by simp⟩

theorem Hosts.sites_nodup (h : c.Hosts feeds) : (feeds.map (·.1)).Nodup := by
  have hn := c.channels.nodup
  rw [h.channels, List.map_map] at hn
  apply List.Nodup.of_map Site.queue
  rwa [List.map_map]

theorem Hosts.queue? (h : c.Hosts feeds) (hm : (s, f) ∈ feeds) :
    c.queue? s.queue = some (s.channel f).queue := by
  simp [Compositor.queue?, h.channels.find? hm]

theorem Hosts.renderer? (h : c.Hosts feeds) (hm : (s, f) ∈ feeds) :
    c.renderer? s.display = some (s.renderer f) := by
  simp [Compositor.renderer?, h.displays.find? hm, Site.shown]

theorem Hosts.below_put (h : c.Hosts feeds) (s : Site) (g : Feed) : ∀ e ∈ feeds.put s g,
    e.1.queue < c.nextId ∧ e.1.display < c.nextId ∧ e.1.waiter < c.nextWaiter := by
  intro e he
  have hs : e.1 ∈ (feeds.put s g).map (·.1) := List.mem_map.mpr ⟨e, he, rfl⟩
  rw [Feeds.put_sites] at hs
  obtain ⟨d, hd, hde⟩ := List.mem_map.mp hs
  exact hde ▸ h.below d hd

/-- Nothing at the site has moved. -/
theorem Hosts.put_self (h : c.Hosts feeds) (hm : (s, f) ∈ feeds) : c.Hosts (feeds.put s f) :=
  ⟨h.channels.keep hm rfl, h.displays.keep hm rfl, h.waiters.keep hm rfl, h.below_put s f⟩

theorem Hosts.setPhase (h : c.Hosts feeds) (hm : (s, f) ∈ feeds)
    (hc : s.channel f = s.channel g) (hp : f.pending = g.pending) :
    (c.setPhase s.display (s.phase g.stage)).Hosts (feeds.put s g) :=
  ⟨h.channels.keep hm hc, h.displays.modify hm rfl, h.waiters.keep hm (by rw [hp]),
    h.below_put s g⟩

theorem Hosts.modifyChannel (h : c.Hosts feeds) (hm : (s, f) ∈ feeds) {φ : Channel → Channel}
    (hφ : φ (s.channel f) = s.channel g) (hd : f.stage = g.stage) (hp : f.pending = g.pending) :
    (c.modifyChannel s.queue φ).Hosts (feeds.put s g) :=
  ⟨h.channels.modify hm hφ, h.displays.keep hm (by simp [Site.shown, Site.renderer, hd]),
    h.waiters.keep hm (by rw [hp]), h.below_put s g⟩

end Compositor

end ScreenCapture
