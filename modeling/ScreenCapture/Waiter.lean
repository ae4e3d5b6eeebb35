namespace ScreenCapture

/-- Counts the frames that were announced and not yet waited for. -/
structure Waiter where
  pending : Nat
  deriving DecidableEq, Inhabited

namespace Waiter

/-- The count stays at this number once it has reached it. -/
def limit : Nat := 4294967295

def idle : Waiter := ⟨0⟩

/-- Announces a frame. -/
def notify (w : Waiter) : Waiter := ⟨min (w.pending + 1) limit⟩

/-- Consumes one announcement, if there is one. -/
def take? (w : Waiter) : Option Waiter := if w.pending = 0 then none else some ⟨w.pending - 1⟩

/-- A wait ends at once when a frame was announced before; otherwise with the next announcement,
which it consumes, or in vain when none arrives in time. -/
def wait (w : Waiter) (arrives : Bool) : Bool × Waiter :=
  match w.take? with
  | some w => (true, w)
  | none => (arrives, w)

theorem take?_eq_none {w : Waiter} : w.take? = none ↔ w.pending = 0 := by
  simp [take?]

theorem pending_of_take? {w v : Waiter} (h : w.take? = some v) : w.pending = v.pending + 1 := by
  simp only [take?, Option.ite_none_left_eq_some, Option.some.injEq] at h
  obtain ⟨hp, rfl⟩ := h
  simp only
  omega

theorem take?_notify {w : Waiter} (h : w.pending < limit) : w.notify.take? = some w := by
  have hn : w.notify.pending = w.pending + 1 := Nat.min_eq_left h
  simp [take?, hn]

end Waiter

end ScreenCapture
