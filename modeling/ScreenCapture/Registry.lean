namespace ScreenCapture

/-- Values by key, in the order in which they were added. No key occurs twice. -/
@[ext]
structure Registry (κ α : Type) where
  entries : List (κ × α)
  nodup : (entries.map (·.1)).Nodup

namespace Registry

variable {κ α : Type} [DecidableEq κ]

def empty : Registry κ α := ⟨[], List.nodup_nil⟩

instance : Inhabited (Registry κ α) := ⟨empty⟩

def find? (r : Registry κ α) (key : κ) : Option α := r.entries.lookup key

def keys (r : Registry κ α) : List κ := r.entries.map (·.1)

def size (r : Registry κ α) : Nat := r.entries.length

def erase (r : Registry κ α) (key : κ) : Registry κ α :=
  ⟨r.entries.filter (·.1 ≠ key), r.nodup.sublist (List.filter_sublist.map _)⟩

theorem map_modified (l : List (κ × α)) (key : κ) (f : α → α) :
    (l.map fun e => if e.1 = key then (e.1, f e.2) else e).map (·.1) = l.map (·.1) := by
  rw [List.map_map]
  apply List.map_congr_left
  intro e _
  simp only [Function.comp]
  split <;> rfl

theorem not_mem_erase (r : Registry κ α) (key : κ) :
    key ∉ (r.erase key).entries.map (·.1) := by
  simp [erase]

/-- Adds a value, in place of the one its key had. -/
def insert (r : Registry κ α) (key : κ) (value : α) : Registry κ α where
  entries := (r.erase key).entries ++ [(key, value)]
  nodup := by
    rw [List.map_append, List.nodup_append]
    refine ⟨(r.erase key).nodup, by simp, ?_⟩
    rintro a ha b hb rfl
    have hk : a = key := by simpa using hb
    exact r.not_mem_erase key (hk ▸ ha)

/-- Replaces the value of a key, if there is one. -/
def modify (r : Registry κ α) (key : κ) (f : α → α) : Registry κ α where
  entries := r.entries.map fun e => if e.1 = key then (e.1, f e.2) else e
  nodup := by
    rw [map_modified]
    exact r.nodup

theorem find?_empty (key : κ) : (empty : Registry κ α).find? key = none := rfl

theorem lookup_filter_self (l : List (κ × α)) (key : κ) :
    (l.filter (·.1 ≠ key)).lookup key = none := by
  induction l with
  | nil => rfl
  | cons e l ih =>
    obtain ⟨k, a⟩ := e
    by_cases hk : k = key
    · simpa [hk] using ih
    · have hb : (key == k) = false := by simpa using fun h => hk h.symm
      simpa [hk, List.lookup_cons, hb] using ih

theorem lookup_filter_ne (l : List (κ × α)) {key other : κ} (h : other ≠ key) :
    (l.filter (·.1 ≠ key)).lookup other = l.lookup other := by
  induction l with
  | nil => rfl
  | cons e l ih =>
    obtain ⟨k, a⟩ := e
    by_cases hk : k = key
    · have hb : (other == k) = false := by simpa [hk] using h
      rw [List.lookup_cons, hb, List.filter_cons_of_neg (by simp [hk]), ih]
    · simp only [hk, ne_eq, not_false_eq_true, decide_true, List.filter_cons_of_pos,
        List.lookup_cons]
      rw [show l.filter (fun e => decide (¬e.1 = key)) = l.filter (·.1 ≠ key) from rfl, ih]

theorem lookup_append (a b : List (κ × α)) (key : κ) :
    (a ++ b).lookup key = (a.lookup key).or (b.lookup key) := by
  induction a with
  | nil => simp
  | cons e a ih =>
    obtain ⟨k, v⟩ := e
    simp only [List.cons_append, List.lookup_cons]
    split <;> simp [ih]

theorem find?_erase_self (r : Registry κ α) (key : κ) : (r.erase key).find? key = none :=
  lookup_filter_self r.entries key

theorem find?_erase_ne (r : Registry κ α) {key other : κ} (h : other ≠ key) :
    (r.erase key).find? other = r.find? other :=
  lookup_filter_ne r.entries h

theorem find?_insert_self (r : Registry κ α) (key : κ) (value : α) :
    (r.insert key value).find? key = some value := by
  simp only [find?, insert, lookup_append]
  rw [show (r.erase key).entries.lookup key = none from r.find?_erase_self key]
  simp

theorem find?_insert_ne (r : Registry κ α) {key other : κ} (value : α) (h : other ≠ key) :
    (r.insert key value).find? other = r.find? other := by
  have hb : (other == key) = false := by simpa using h
  simp only [find?, insert, lookup_append, List.lookup_cons, hb, List.lookup_nil, Option.or_none]
  exact r.find?_erase_ne h

theorem find?_modify_self (r : Registry κ α) (key : κ) (f : α → α) :
    (r.modify key f).find? key = (r.find? key).map f := by
  simp only [find?, modify]
  induction r.entries with
  | nil => rfl
  | cons e l ih =>
    obtain ⟨k, a⟩ := e
    by_cases hk : k = key
    · subst hk
      simp
    · have hb : (key == k) = false := by simpa using fun h => hk h.symm
      simpa [hk, List.lookup_cons, hb] using ih

theorem find?_modify_ne (r : Registry κ α) {key other : κ} (f : α → α) (h : other ≠ key) :
    (r.modify key f).find? other = r.find? other := by
  simp only [find?, modify]
  induction r.entries with
  | nil => rfl
  | cons e l ih =>
    obtain ⟨k, a⟩ := e
    by_cases hk : k = key
    · have hb : (other == k) = false := by simpa [hk] using h
      have hb' : (other == key) = false := by simpa using h
      simpa [hk, List.lookup_cons, hb, hb'] using ih
    · simp only [List.map_cons, hk, if_false, List.lookup_cons]
      rw [ih]

end Registry

end ScreenCapture
