import ScreenCapture.Registry

namespace ScreenCapture.Registry

variable {κ α : Type} [DecidableEq κ]

theorem lookup_eq_none {l : List (κ × α)} {key : κ} :
    l.lookup key = none ↔ ∀ e ∈ l, e.1 ≠ key := by
  induction l with
  | nil => simp
  | cons e l ih =>
    obtain ⟨k, a⟩ := e
    by_cases hk : key = k
    · simp [hk]
    · have hb : (key == k) = false := by simpa using hk
      simp [List.lookup_cons, hb, ih, Ne.symm hk]

theorem lookup_of_mem {l : List (κ × α)} (hn : (l.map (·.1)).Nodup) {key : κ} {value : α}
    (h : (key, value) ∈ l) : l.lookup key = some value := by
  induction l with
  | nil => cases h
  | cons e l ih =>
    obtain ⟨k, a⟩ := e
    obtain ⟨hk, hn⟩ := List.nodup_cons.mp hn
    rcases List.mem_cons.mp h with he | hm
    · cases he
      simp
    · have hne : key ≠ k := fun he => hk (List.mem_map.mpr ⟨_, hm, he⟩)
      have hb : (key == k) = false := by simpa using hne
      rw [List.lookup_cons, hb]
      exact ih hn hm

theorem find?_of_mem {r : Registry κ α} {key : κ} {value : α} (h : (key, value) ∈ r.entries) :
    r.find? key = some value :=
  lookup_of_mem r.nodup h

theorem find?_eq_none {r : Registry κ α} {key : κ} :
    r.find? key = none ↔ ∀ e ∈ r.entries, e.1 ≠ key :=
  lookup_eq_none

theorem mem_of_lookup {l : List (κ × α)} {key : κ} {value : α} (h : l.lookup key = some value) :
    (key, value) ∈ l := by
  induction l with
  | nil => cases h
  | cons e l ih =>
    obtain ⟨k, a⟩ := e
    rw [List.lookup_cons] at h
    split at h
    next hk =>
      cases h
      rw [eq_of_beq hk]
      exact List.mem_cons_self
    next => exact List.mem_cons_of_mem _ (ih h)

theorem find?_eq_some {r : Registry κ α} {key : κ} {value : α} :
    r.find? key = some value ↔ (key, value) ∈ r.entries :=
  ⟨mem_of_lookup, find?_of_mem⟩

theorem filter_of_absent {l : List (κ × α)} {key : κ} (h : ∀ e ∈ l, e.1 ≠ key) :
    l.filter (·.1 ≠ key) = l := by
  simpa using h

theorem filter_append_cons {before after : List (κ × α)} {key : κ} {value : α}
    (hn : ((before ++ (key, value) :: after).map (·.1)).Nodup) :
    (before ++ (key, value) :: after).filter (·.1 ≠ key) = before ++ after := by
  rw [List.map_append, List.map_cons, List.nodup_append] at hn
  obtain ⟨_, hafter, hdisjoint⟩ := hn
  have hb : ∀ e ∈ before, e.1 ≠ key := fun e he =>
    hdisjoint e.1 (List.mem_map_of_mem he) key List.mem_cons_self
  have ha : ∀ e ∈ after, e.1 ≠ key := by
    intro e he hk
    exact (List.nodup_cons.mp hafter).1 (List.mem_map.mpr ⟨e, he, hk⟩)
  rw [List.filter_append, List.filter_cons_of_neg (by simp), filter_of_absent hb,
    filter_of_absent ha]

theorem entries_perm {r : Registry κ α} {key : κ} {value : α} (h : r.find? key = some value) :
    r.entries.Perm ((key, value) :: (r.erase key).entries) := by
  obtain ⟨before, after, he⟩ := List.append_of_mem (find?_eq_some.mp h)
  have hn := r.nodup
  rw [he] at hn
  have herase : (r.erase key).entries = before ++ after := by
    simp only [erase, he]
    exact filter_append_cons hn
  rw [herase, he]
  exact List.perm_middle

theorem erase_of_absent {r : Registry κ α} {key : κ} (h : r.find? key = none) :
    r.erase key = r :=
  Registry.ext (filter_of_absent (find?_eq_none.mp h))

theorem erase_insert_self (r : Registry κ α) (key : κ) (value : α) :
    (r.insert key value).erase key = r.erase key := by
  apply Registry.ext
  simp [erase, insert]

theorem erase_modify_self (r : Registry κ α) (key : κ) (f : α → α) :
    (r.modify key f).erase key = r.erase key := by
  apply Registry.ext
  simp only [erase, modify]
  induction r.entries with
  | nil => rfl
  | cons e l ih =>
    obtain ⟨k, a⟩ := e
    by_cases hk : k = key
    · simpa [hk] using ih
    · simpa [hk] using ih

theorem entries_modify_perm {r : Registry κ α} {key : κ} {value : α}
    (h : r.find? key = some value) (f : α → α) :
    (r.modify key f).entries.Perm ((key, f value) :: (r.erase key).entries) := by
  rw [← erase_modify_self r key f]
  exact entries_perm (by rw [find?_modify_self, h]; rfl)

theorem mem_erase {r : Registry κ α} {key : κ} {e : κ × α} :
    e ∈ (r.erase key).entries ↔ e ∈ r.entries ∧ e.1 ≠ key := by
  rw [erase, List.mem_filter, decide_eq_true_eq]

theorem modify_of_absent {r : Registry κ α} {key : κ} (h : r.find? key = none) (f : α → α) :
    r.modify key f = r := by
  apply Registry.ext
  refine (List.map_congr_left ?_).trans (List.map_id _)
  intro e he
  have hk := find?_eq_none.mp h e he
  simp [hk]

theorem modify_congr {r : Registry κ α} {key : κ} {value : α} (h : r.find? key = some value)
    {f g : α → α} (hf : f value = g value) : r.modify key f = r.modify key g := by
  apply Registry.ext
  apply List.map_congr_left
  rintro ⟨k, a⟩ he
  by_cases hk : k = key
  · subst hk
    obtain rfl := Option.some.inj (h.symm.trans (find?_of_mem he))
    simp [hf]
  · simp [hk]

theorem modify_id (r : Registry κ α) (key : κ) : r.modify key id = r := by
  apply Registry.ext
  exact (List.map_congr_left fun e _ => ite_self e).trans (List.map_id _)

/-- What was just inserted can as well be inserted in its changed form. -/
theorem modify_insert_self (r : Registry κ α) (key : κ) (value : α) (f : α → α) :
    (r.insert key value).modify key f = r.insert key (f value) := by
  apply Registry.ext
  simp only [insert, modify, List.map_append, List.map_cons, List.map_nil, if_true,
    List.append_cancel_right_eq]
  refine (List.map_congr_left ?_).trans (List.map_id _)
  intro e he
  have hk : e.1 ≠ key := by
    rintro rfl
    exact r.not_mem_erase e.1 (List.mem_map_of_mem he)
  simp [hk]

theorem mem_keys {r : Registry κ α} {key : κ} : key ∈ r.keys ↔ (r.find? key).isSome = true := by
  rw [← Option.ne_none_iff_isSome, ne_eq, find?_eq_none, keys, List.mem_map]
  simp

theorem find?_of_not_mem_keys {r : Registry κ α} {key : κ} (h : key ∉ r.keys) :
    r.find? key = none := by
  rwa [mem_keys, Bool.not_eq_true, Option.isSome_eq_false_iff, Option.isNone_iff_eq_none] at h

omit [DecidableEq κ] in
theorem length_keys (r : Registry κ α) : r.keys.length = r.size := List.length_map _

theorem keys_modify (r : Registry κ α) (key : κ) (f : α → α) : (r.modify key f).keys = r.keys :=
  map_modified r.entries key f

theorem keys_erase (r : Registry κ α) (key : κ) : (r.erase key).keys = r.keys.filter (· ≠ key) := by
  rw [keys, keys, erase, List.filter_map]
  rfl

theorem keys_insert {r : Registry κ α} {key : κ} (h : key ∉ r.keys) (value : α) :
    (r.insert key value).keys = r.keys ++ [key] := by
  simp [keys, insert, erase_of_absent (find?_of_not_mem_keys h)]

theorem eq_some_of_find?_erase {r : Registry κ α} {key other : κ} {value : α}
    (h : (r.erase key).find? other = some value) : r.find? other = some value := by
  by_cases ho : other = key
  · subst ho
    rw [find?_erase_self] at h
    cases h
  · rwa [find?_erase_ne r ho] at h

theorem eq_some_of_find?_insert {r : Registry κ α} {key other : κ} {value found : α}
    (h : (r.insert key value).find? other = some found) :
    other = key ∧ value = found ∨ r.find? other = some found := by
  by_cases ho : other = key
  · subst ho
    rw [find?_insert_self] at h
    exact .inl ⟨rfl, Option.some.inj h⟩
  · rw [find?_insert_ne r value ho] at h
    exact .inr h

theorem countP_of_find? {r : Registry κ α} {key : κ} {value : α} (h : r.find? key = some value)
    (p : κ × α → Bool) : r.entries.countP p =
      (r.erase key).entries.countP p + if p (key, value) then 1 else 0 := by
  rw [(entries_perm h).countP_eq, List.countP_cons]

theorem countP_insert (r : Registry κ α) (key : κ) (value : α) (p : κ × α → Bool) :
    (r.insert key value).entries.countP p =
      (r.erase key).entries.countP p + if p (key, value) then 1 else 0 := by
  rw [insert, List.countP_append, List.countP_singleton]

theorem countP_le_erase (r : Registry κ α) (key : κ) (p : κ × α → Bool) :
    r.entries.countP p ≤ (r.erase key).entries.countP p + 1 := by
  cases h : r.find? key with
  | none =>
    rw [erase_of_absent h]
    exact Nat.le_succ _
  | some value =>
    rw [countP_of_find? h]
    split <;> omega

end ScreenCapture.Registry
