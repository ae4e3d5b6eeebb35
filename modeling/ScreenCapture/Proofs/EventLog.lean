import Mathlib.Data.List.Nodup
import ScreenCapture.Compositor.Basic

namespace ScreenCapture

/-- What is created in a compositor, and is to be given back. -/
inductive Resource
  | queue (id : QueueId)
  | display (token : DisplayToken)
  deriving DecidableEq

namespace Resource

def number : Resource → Nat
  | queue id => id
  | display token => token

def opening : Resource → Event
  | queue id => .queueCreated id
  | display token => .displayCreated token

def closing : Resource → Event
  | queue id => .queueReleased id
  | display token => .displayDestroyed token

def isQueue : Resource → Bool
  | queue _ => true
  | display _ => false

def isDisplay : Resource → Bool
  | queue _ => false
  | display _ => true

def queue? : Resource → Option QueueId
  | queue id => some id
  | display _ => none

def display? : Resource → Option DisplayToken
  | queue _ => none
  | display token => some token

end Resource

namespace Event

/-- The resource that an event is about. -/
def resource? : Event → Option Resource
  | threadPoolStarted => none
  | queueCreated id | queueReleased id => some (.queue id)
  | displayCreated token | transactionApplied token | displayDestroyed token =>
    some (.display token)

/-- The number that an event gives out. -/
def number? : Event → Option Nat
  | queueCreated id => some id
  | displayCreated token => some token
  | threadPoolStarted | queueReleased _ | transactionApplied _ | displayDestroyed _ => none

def opens (p : Resource → Bool) : Event → Bool
  | queueCreated id => p (.queue id)
  | displayCreated token => p (.display token)
  | threadPoolStarted | queueReleased _ | transactionApplied _ | displayDestroyed _ => false

def closes (p : Resource → Bool) : Event → Bool
  | queueReleased id => p (.queue id)
  | displayDestroyed token => p (.display token)
  | threadPoolStarted | queueCreated _ | transactionApplied _ | displayCreated _ => false

end Event

/-- What is known after some events: the resources that are not given back, and the greatest number
that was given out. -/
structure Books where
  live : List Resource
  last : Nat

namespace Books

def enter (b : Books) : Event → Books
  | .threadPoolStarted | .transactionApplied _ => b
  | .queueCreated id => ⟨b.live ++ [.queue id], id⟩
  | .displayCreated token => ⟨b.live ++ [.display token], token⟩
  | .queueReleased id => { b with live := b.live.filter (· ≠ .queue id) }
  | .displayDestroyed token => { b with live := b.live.filter (· ≠ .display token) }

/-- Whether an event may come next: numbers grow, and only what is there is shown or given back. -/
def Admits (b : Books) : Event → Prop
  | .threadPoolStarted => True
  | .queueCreated id => b.last < id
  | .displayCreated token => b.last < token
  | .queueReleased id => .queue id ∈ b.live
  | .transactionApplied token | .displayDestroyed token => .display token ∈ b.live

end Books

def books (log : List Event) : Books := log.foldl Books.enter ⟨[], 0⟩

theorem books_snoc (log : List Event) (e : Event) : books (log ++ [e]) = (books log).enter e := by
  rw [books, List.foldl_append]
  rfl

/-- A log whose events may come in their order. -/
inductive Orderly : List Event → Prop
  | nil : Orderly []
  | snoc {log : List Event} {e : Event} : Orderly log → (books log).Admits e → Orderly (log ++ [e])

namespace Books

variable {b : Books} {e : Event} {r : Resource}

theorem Admits.resource (h : b.Admits e) (hr : e.resource? = some r) :
    e = r.opening ∧ b.last < r.number ∨ r ∈ b.live := by
  cases e with
  | threadPoolStarted => cases hr
  | queueCreated id | displayCreated token =>
    cases hr
    exact .inl ⟨rfl, h⟩
  | queueReleased id | transactionApplied token | displayDestroyed token =>
    cases hr
    exact .inr h

theorem admits_opening : b.Admits r.opening ↔ b.last < r.number := by
  cases r <;> exact Iff.rfl

theorem admits_closing : b.Admits r.closing ↔ r ∈ b.live := by
  cases r <;> exact Iff.rfl

theorem enter_opening (b : Books) (r : Resource) :
    b.enter r.opening = ⟨b.live ++ [r], r.number⟩ := by
  cases r <;> rfl

theorem enter_closing (b : Books) (r : Resource) :
    b.enter r.closing = { b with live := b.live.filter (· ≠ r) } := by
  cases r <;> rfl

theorem Admits.last_le (h : b.Admits e) : b.last ≤ (b.enter e).last := by
  cases e with
  | queueCreated id | displayCreated token => exact Nat.le_of_lt h
  | threadPoolStarted | queueReleased _ | transactionApplied _ | displayDestroyed _ =>
    exact Nat.le_refl _

end Books

namespace Resource

theorem opening_inj {r s : Resource} : r.opening = s.opening ↔ r = s := by
  cases r <;> cases s <;> simp [opening]

theorem closing_inj {r s : Resource} : r.closing = s.closing ↔ r = s := by
  cases r <;> cases s <;> simp [closing]

theorem opening_ne_closing (r s : Resource) : r.opening ≠ s.closing := by
  cases r <;> cases s <;> nofun

theorem resource?_opening (r : Resource) : r.opening.resource? = some r := by
  cases r <;> rfl

theorem resource?_closing (r : Resource) : r.closing.resource? = some r := by
  cases r <;> rfl

theorem opens_opening (r : Resource) (p : Resource → Bool) : r.opening.opens p = p r := by
  cases r <;> rfl

theorem opens_closing (r : Resource) (p : Resource → Bool) : r.closing.opens p = false := by
  cases r <;> rfl

theorem closes_opening (r : Resource) (p : Resource → Bool) : r.opening.closes p = false := by
  cases r <;> rfl

theorem closes_closing (r : Resource) (p : Resource → Bool) : r.closing.closes p = p r := by
  cases r <;> rfl

theorem number?_opening (r : Resource) : r.opening.number? = some r.number := by
  cases r <;> rfl

theorem number?_closing (r : Resource) : r.closing.number? = none := by
  cases r <;> rfl

end Resource

/-- An event that leaves the books as they are. -/
structure Event.IsNeutral (e : Event) : Prop where
  ne_opening (r : Resource) : e ≠ r.opening
  ne_closing (r : Resource) : e ≠ r.closing
  enter (b : Books) : b.enter e = b
  opens (p : Resource → Bool) : e.opens p = false
  closes (p : Resource → Bool) : e.closes p = false
  number? : e.number? = none

theorem Event.threadPoolStarted_isNeutral : threadPoolStarted.IsNeutral :=
  ⟨fun r => by cases r <;> nofun, fun r => by cases r <;> nofun, fun _ => rfl, fun _ => rfl,
    fun _ => rfl, rfl⟩

theorem Event.transactionApplied_isNeutral (token : DisplayToken) :
    (transactionApplied token).IsNeutral :=
  ⟨fun r => by cases r <;> nofun, fun r => by cases r <;> nofun, fun _ => rfl, fun _ => rfl,
    fun _ => rfl, rfl⟩

theorem Event.kinds (e : Event) :
    (∃ r : Resource, e = r.opening) ∨ (∃ r : Resource, e = r.closing) ∨ e.IsNeutral := by
  cases e with
  | queueCreated id => exact .inl ⟨.queue id, rfl⟩
  | displayCreated token => exact .inl ⟨.display token, rfl⟩
  | queueReleased id => exact .inr (.inl ⟨.queue id, rfl⟩)
  | displayDestroyed token => exact .inr (.inl ⟨.display token, rfl⟩)
  | threadPoolStarted => exact .inr (.inr threadPoolStarted_isNeutral)
  | transactionApplied token => exact .inr (.inr (transactionApplied_isNeutral token))

theorem Event.opening_of_number? (e : Event) {n : Nat} (h : e.number? = some n) :
    ∃ r : Resource, e = r.opening ∧ r.number = n := by
  rcases e.kinds with ⟨r, rfl⟩ | ⟨r, rfl⟩ | he
  · exact ⟨r, rfl, Option.some.inj (r.number?_opening.symm.trans h)⟩
  · rw [r.number?_closing] at h
    cases h
  · rw [he.number?] at h
    cases h

namespace Orderly

variable {log before after : List Event} {e : Event} {r : Resource}

theorem of_append (h : Orderly (before ++ after)) : Orderly before := by
  generalize hlog : before ++ after = log at h
  induction h generalizing after with
  | nil =>
    obtain ⟨rfl, _⟩ := List.append_eq_nil_iff.mp hlog
    exact .nil
  | @snoc log e h ha ih =>
    rcases List.eq_nil_or_concat after with rfl | ⟨init, x, rfl⟩
    · rw [List.append_nil] at hlog
      exact hlog ▸ h.snoc ha
    · rw [List.concat_eq_append, ← List.append_assoc] at hlog
      exact ih (List.append_inj_left' hlog rfl)

/-- Each event was admitted when it came. -/
theorem admits (h : Orderly (before ++ e :: after)) : (books before).Admits e := by
  have happ : Orderly ((before ++ [e]) ++ after) := by simpa using h
  have h1 := happ.of_append
  generalize hlog : before ++ [e] = log at h1
  cases h1 with
  | nil => simp at hlog
  | snoc _ ha =>
    obtain ⟨rfl, he⟩ := List.append_inj' hlog rfl
    rwa [List.singleton_inj.mp he]

theorem live_le (h : Orderly log) (hr : r ∈ (books log).live) :
    r.number ≤ (books log).last := by
  induction h with
  | nil => cases hr
  | @snoc log e h ha ih =>
    rw [books_snoc] at hr ⊢
    rcases e.kinds with ⟨s, rfl⟩ | ⟨s, rfl⟩ | he
    · have hlast := Books.admits_opening.mp ha
      rw [Books.enter_opening] at hr ⊢
      rcases List.mem_append.mp hr with hr | hr
      · exact Nat.le_of_lt (Nat.lt_of_le_of_lt (ih hr) hlast)
      · obtain rfl := List.mem_singleton.mp hr
        exact Nat.le_refl _
    · rw [Books.enter_closing] at hr ⊢
      exact ih (List.mem_of_mem_filter hr)
    · rw [he.enter] at hr ⊢
      exact ih hr

/-- No event is about a resource whose number is still to be given out. -/
theorem number_le (h : Orderly log) (he : e ∈ log) (hr : e.resource? = some r) :
    r.number ≤ (books log).last := by
  induction h with
  | nil => cases he
  | @snoc log x h ha ih =>
    have hsnoc := h.snoc ha
    have hmono : (books log).last ≤ (books (log ++ [x])).last := by
      rw [books_snoc]
      exact ha.last_le
    rcases List.mem_append.mp he with he | he
    · exact Nat.le_trans (ih he) hmono
    · obtain rfl := List.mem_singleton.mp he
      rcases ha.resource hr with ⟨rfl, _⟩ | hlive
      · exact Nat.le_of_eq (by rw [books_snoc, Books.enter_opening])
      · exact Nat.le_trans (h.live_le hlive) hmono

/-- The live resources are those that were opened and not closed. -/
theorem mem_live_iff (h : Orderly log) (r : Resource) :
    r ∈ (books log).live ↔ r.opening ∈ log ∧ r.closing ∉ log := by
  induction h with
  | nil => simp [books]
  | @snoc log e h ha ih =>
    rw [books_snoc]
    rcases e.kinds with ⟨s, rfl⟩ | ⟨s, rfl⟩ | he
    · -- what is opened was never closed, for its number is new
      have hnew : s.closing ∉ log := fun hs =>
        Nat.not_lt_of_le (h.number_le hs s.resource?_closing) (Books.admits_opening.mp ha)
      rw [Books.enter_opening, List.mem_append, List.mem_append, List.mem_append, ih]
      by_cases hrs : r = s
      · simp [hrs, hnew, (Resource.opening_ne_closing s s).symm]
      · simp [hrs, Resource.opening_inj, (Resource.opening_ne_closing s r).symm]
    · rw [Books.enter_closing, List.mem_filter, ih]
      by_cases hrs : r = s
      · simp [hrs]
      · simp [hrs, Resource.closing_inj, Resource.opening_ne_closing r s]
    · rw [he.enter, ih]
      simp [(he.ne_opening r).symm, (he.ne_closing r).symm]

/-- What is given back was there before, and is not heard of again. -/
theorem of_closing (h : Orderly (before ++ r.closing :: after)) :
    r.opening ∈ before ∧ ∀ e ∈ after, e.resource? ≠ some r := by
  have hbefore := h.of_append
  have hlive := Books.admits_closing.mp h.admits
  refine ⟨((hbefore.mem_live_iff r).mp hlive).1, ?_⟩
  intro e he hr
  obtain ⟨mid, last, rfl⟩ := List.append_of_mem he
  rw [← List.cons_append, ← List.append_assoc] at h
  have hmid := h.of_append
  have hclosed : r.closing ∈ before ++ r.closing :: mid := by simp
  rcases h.admits.resource hr with ⟨_, hlast⟩ | hlive
  · exact Nat.not_lt_of_le (hmid.number_le hclosed r.resource?_closing) hlast
  · exact ((hmid.mem_live_iff r).mp hlive).2 hclosed

theorem count_closing_le_one (h : Orderly log) (r : Resource) : log.count r.closing ≤ 1 := by
  by_cases hr : r.closing ∈ log
  · obtain ⟨before, after, rfl, hbefore⟩ := List.eq_append_cons_of_mem hr
    have hafter : r.closing ∉ after := fun hm => h.of_closing.2 _ hm r.resource?_closing
    refine Nat.le_of_eq ?_
    rw [List.count_append, List.count_cons_self, List.count_eq_zero.mpr hbefore,
      List.count_eq_zero.mpr hafter]
  · exact Nat.le_trans (Nat.le_of_eq (List.count_eq_zero.mpr hr)) (Nat.zero_le 1)

theorem of_applied {token : DisplayToken}
    (h : Orderly (before ++ .transactionApplied token :: after)) :
    .displayCreated token ∈ before :=
  ((h.of_append.mem_live_iff (.display token)).mp h.admits).1

theorem live_nodup (h : Orderly log) : (books log).live.Nodup := by
  induction h with
  | nil => exact List.nodup_nil
  | @snoc log e h ha ih =>
    rw [books_snoc]
    rcases e.kinds with ⟨s, rfl⟩ | ⟨s, rfl⟩ | he
    · rw [Books.enter_opening]
      refine List.nodup_append.mpr ⟨ih, List.nodup_singleton s, ?_⟩
      rintro r hr t ht rfl
      obtain rfl := List.mem_singleton.mp ht
      exact Nat.not_lt_of_le (h.live_le hr) (Books.admits_opening.mp ha)
    · rw [Books.enter_closing]
      exact ih.filter _
    · rwa [he.enter]

/-- What was opened is live or was closed. -/
theorem countP_live (h : Orderly log) (p : Resource → Bool) :
    (books log).live.countP p + log.countP (Event.closes p) = log.countP (Event.opens p) := by
  induction h with
  | nil => rfl
  | @snoc log e h ha ih =>
    rw [books_snoc, List.countP_append, List.countP_append, List.countP_singleton,
      List.countP_singleton]
    rcases e.kinds with ⟨s, rfl⟩ | ⟨s, rfl⟩ | he
    · rw [Books.enter_opening, List.countP_append, List.countP_singleton, s.opens_opening,
        s.closes_opening]
      simp only [Bool.false_eq_true, if_false]
      omega
    · have hcount := (List.perm_cons_erase (Books.admits_closing.mp ha)).countP_eq p
      have herase : (books log).live.erase s = (books log).live.filter (· ≠ s) := by
        rw [h.live_nodup.erase_eq_filter]
        exact List.filter_congr fun r _ => by by_cases hr : r = s <;> simp [hr]
      rw [herase, List.countP_cons] at hcount
      rw [Books.enter_closing, s.opens_closing, s.closes_closing]
      simp only [Bool.false_eq_true, if_false]
      omega
    · rw [he.enter, he.opens, he.closes]
      exact ih

theorem count_live (h : Orderly log) (r : Resource) :
    (books log).live.count r + log.count r.closing = log.count r.opening := by
  have hcloses (e : Event) : e.closes (· == r) = (e == r.closing) := by
    cases e <;> cases r <;> simp [Event.closes, Resource.closing]
  have hopens (e : Event) : e.opens (· == r) = (e == r.opening) := by
    cases e <;> cases r <;> simp [Event.opens, Resource.opening]
  have hcount := h.countP_live (· == r)
  rwa [funext hcloses, funext hopens] at hcount

theorem count_opening_le_one (h : Orderly log) (r : Resource) : log.count r.opening ≤ 1 := by
  rw [← h.count_live r]
  by_cases hr : r.closing ∈ log
  · have hdead : r ∉ (books log).live := fun hm => ((h.mem_live_iff r).mp hm).2 hr
    rw [List.count_eq_zero.mpr hdead, Nat.zero_add]
    exact h.count_closing_le_one r
  · rw [List.count_eq_zero.mpr hr]
    exact List.nodup_iff_count_le_one.mp h.live_nodup r

/-- Numbers are given out in their order. -/
theorem numbers_pairwise (h : Orderly log) : (log.filterMap Event.number?).Pairwise (· < ·) := by
  induction h with
  | nil => exact List.Pairwise.nil
  | @snoc log e h ha ih =>
    rw [List.filterMap_append, List.pairwise_append]
    refine ⟨ih, ?_, ?_⟩
    · rcases e.kinds with ⟨s, rfl⟩ | ⟨s, rfl⟩ | he
      · simp [s.number?_opening]
      · simp [s.number?_closing]
      · simp [he.number?]
    · intro m hm n hn
      obtain ⟨d, hd, hdm⟩ := List.mem_filterMap.mp hm
      obtain ⟨e', he', hen⟩ := List.mem_filterMap.mp hn
      obtain rfl := List.mem_singleton.mp he'
      obtain ⟨r, rfl, rfl⟩ := d.opening_of_number? hdm
      obtain ⟨s, rfl, rfl⟩ := e'.opening_of_number? hen
      exact Nat.lt_of_le_of_lt (h.number_le hd r.resource?_opening) (Books.admits_opening.mp ha)

end Orderly

end ScreenCapture
