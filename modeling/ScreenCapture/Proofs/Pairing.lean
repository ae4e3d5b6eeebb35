import Mathlib.Data.List.Basic
import ScreenCapture.Capture.FrameHolder
import ScreenCapture.Frame.Script

namespace ScreenCapture

/-- What is asked of a holder. -/
inductive HolderCall
  | lock | unlock | frame
  deriving DecidableEq

inductive HolderAnswer
  | locked (result : Except CaptureError LockedBuffer)
  | unlocked (held : Bool)
  | frame (view : Option Frame)

namespace FrameHolder

variable {σ : Type} (source : BufferSource σ)

def call (t : FrameHolder × σ) : HolderCall → HolderAnswer × FrameHolder × σ
  | .lock => (.locked (t.1.lockNext source t.2).1, (t.1.lockNext source t.2).2)
  | .unlock => (.unlocked (t.1.unlock source t.2).1, (t.1.unlock source t.2).2)
  | .frame => (.frame (t.1.frame? source t.2), t)

/-- The answers on the way, and where it leads. -/
def run : List HolderCall → FrameHolder × σ → List HolderAnswer × FrameHolder × σ
  | [], t => ([], t)
  | x :: rest, t =>
    ((call source t x).1 :: (run rest (call source t x).2).1, (run rest (call source t x).2).2)

/-- The source once its holder is gone. -/
def drop (t : FrameHolder × σ) : σ := (t.1.unlock source t.2).2.2

/-- The call by which the held buffer is to be given back. -/
def due (f : FrameHolder) : List SourceCall := (f.held.map .unlock).toList

end FrameHolder

/-- One source is a view of another: it locks and shows the same, and comes to the same when a
buffer is given back. Whether it says that it took the buffer back is left open. -/
structure BufferSource.Views {σ τ : Type} (source : BufferSource σ) (other : BufferSource τ)
    (view : σ → τ) : Prop where
  lock (s : σ) : other.lock (view s) = ((source.lock s).1, view (source.lock s).2)
  data (s : σ) : other.data (view s) = source.data s
  unlock (buffer : LockedBuffer) (s : σ) :
    (other.unlock buffer (view s)).2 = view (source.unlock buffer s).2

namespace FrameHolder

variable {σ τ : Type} {source : BufferSource σ} {other : BufferSource τ} {view : σ → τ}

theorem lockNext_views (h : source.Views other view) (f : FrameHolder) (s : σ) :
    f.lockNext other (view s) =
      ((f.lockNext source s).1, (f.lockNext source s).2.1, view (f.lockNext source s).2.2) := by
  unfold lockNext
  cases f.isHolding with
  | true => rfl
  | false =>
    have hl := h.lock s
    simp only [Bool.false_eq_true, if_false]
    generalize source.lock s = locked at hl ⊢
    obtain ⟨_ | buffer, s'⟩ := locked
    · simp only [hl]
    · simp only [hl]
      cases buffer.size? with
      | none => simp only [h.unlock]
      | some size => rfl

theorem unlock_views (h : source.Views other view) (f : FrameHolder) (s : σ) :
    f.unlock other (view s) =
      ((f.unlock source s).1, (f.unlock source s).2.1, view (f.unlock source s).2.2) := by
  unfold unlock
  cases f.held with
  | none => rfl
  | some buffer => simp only [h.unlock]

theorem call_views (h : source.Views other view) (x : HolderCall) (f : FrameHolder) (s : σ) :
    call other (f, view s) x =
      ((call source (f, s) x).1, (call source (f, s) x).2.1, view (call source (f, s) x).2.2) := by
  cases x with
  | lock => simp only [call, lockNext_views h]
  | unlock => simp only [call, unlock_views h]
  | frame => simp only [call, frame?, h.data]

/-- A holder does not look at how its buffers are taken back. -/
theorem run_views (h : source.Views other view) (calls : List HolderCall) (f : FrameHolder)
    (s : σ) : run other calls (f, view s) = ((run source calls (f, s)).1,
      (run source calls (f, s)).2.1, view (run source calls (f, s)).2.2) := by
  induction calls generalizing f s with
  | nil => rfl
  | cons x rest ih => simp only [run, call_views h, ih]

end FrameHolder

namespace Script

/-- What a call to lock is answered, after so many others. -/
def answer (locks : List (Except Status LockedBuffer)) (n : Nat) : Except Status LockedBuffer :=
  locks[n]?.getD (.error .notEnoughData)

/-- A call to lock, and the unlock that goes with it if a buffer was returned. -/
def exchange : Except Status LockedBuffer → List SourceCall
  | .ok buffer => [.lock, .unlock buffer]
  | .error _ => [.lock]

/-- So many calls to lock, each with its unlock. -/
def exchanges (locks : List (Except Status LockedBuffer)) (n : Nat) : List SourceCall :=
  (List.range n).flatMap fun i => exchange (answer locks i)

/-- The script as it is when it takes every buffer back. -/
def obliging (s : Script) : Script := { s with unlocks := [] }

variable {locks : List (Except Status LockedBuffer)} {n : Nat} {s : Script} {f : FrameHolder}

theorem exchanges_succ (locks : List (Except Status LockedBuffer)) (n : Nat) :
    exchanges locks (n + 1) = exchanges locks n ++ exchange (answer locks n) := by
  simp [exchanges, List.range_succ]

theorem lock_eq (h : s.locks = locks.drop n) : s.lock =
    (answer locks n, { s with locks := locks.drop (n + 1), calls := s.calls ++ [.lock] }) := by
  unfold lock record answer
  rw [← List.head?_drop, ← List.tail_drop, ← h]
  cases s.locks <;> simp

theorem unlock_snd (buffer : LockedBuffer) (s : Script) : (s.unlock buffer).2 =
    { s with unlocks := s.unlocks.tail, calls := s.calls ++ [.unlock buffer] } := by
  simp only [unlock, record]
  cases s.unlocks <;> rfl

theorem views_obliging : source.Views source obliging where
  lock s := by
    simp only [source, lock, record, obliging]
    cases s.locks <;> rfl
  data _ := rfl
  unlock buffer s := by
    simp only [source, unlock_snd]
    rfl

theorem count_exchange (answer : Except Status LockedBuffer) :
    (exchange answer).count .lock = 1 := by
  cases answer <;> rfl

theorem count_exchanges (locks : List (Except Status LockedBuffer)) (n : Nat) :
    (exchanges locks n).count .lock = n := by
  induction n with
  | zero => rfl
  | succ n ih => rw [exchanges_succ, List.count_append, ih, count_exchange]

/-- The script was called in pairs so far, but for the unlock that is due. -/
structure Paired (locks : List (Except Status LockedBuffer)) (n : Nat) (t : FrameHolder × Script) :
    Prop where
  remaining : t.2.locks = locks.drop n
  calls : t.2.calls ++ t.1.due = exchanges locks n

namespace Paired

theorem lockNext (h : Paired locks n (f, s)) : ∃ m, Paired locks m (f.lockNext source s).2 := by
  obtain ⟨held⟩ := f
  cases held with
  | some buffer => exact ⟨n, h⟩
  | none =>
    have hcalls : s.calls = exchanges locks n := (List.append_nil _).symm.trans h.calls
    simp only [FrameHolder.lockNext, FrameHolder.isHolding, Option.isSome_none,
      Bool.false_eq_true, if_false, source, lock_eq h.remaining, hcalls]
    refine ⟨n + 1, ?_⟩
    have hnext := exchanges_succ locks n
    cases ha : answer locks n with
    | error status =>
      rw [ha] at hnext
      exact ⟨rfl, (List.append_nil _).trans hnext.symm⟩
    | ok buffer =>
      rw [ha] at hnext
      simp only [unlock_snd]
      -- too large or not, the buffer is given back before anything else is asked for
      cases buffer.size? with
      | none => exact ⟨rfl, by simp [hnext, exchange, FrameHolder.due]⟩
      | some size => exact ⟨rfl, by simp [hnext, exchange, FrameHolder.due]⟩

theorem unlock (h : Paired locks n (f, s)) : Paired locks n (f.unlock source s).2 := by
  obtain ⟨held⟩ := f
  cases held with
  | none => exact h
  | some buffer =>
    simp only [FrameHolder.unlock, source, unlock_snd]
    exact ⟨h.remaining, (List.append_nil _).trans h.calls⟩

theorem call (x : HolderCall) {t : FrameHolder × Script} (h : Paired locks n t) :
    ∃ m, Paired locks m (FrameHolder.call source t x).2 := by
  cases x with
  | lock => exact h.lockNext
  | unlock => exact ⟨n, h.unlock⟩
  | frame => exact ⟨n, h⟩

theorem run (calls : List HolderCall) {t : FrameHolder × Script} (h : Paired locks n t) :
    ∃ m, Paired locks m (FrameHolder.run source calls t).2 := by
  induction calls generalizing n t with
  | nil => exact ⟨n, h⟩
  | cons x rest ih =>
    obtain ⟨m, hm⟩ := h.call x
    exact ih hm

theorem drop {t : FrameHolder × Script} (h : Paired locks n t) :
    (FrameHolder.drop source t).calls = exchanges locks n := by
  obtain ⟨⟨held⟩, s⟩ := t
  cases held with
  | none => exact (List.append_nil _).symm.trans h.calls
  | some buffer =>
    simp only [FrameHolder.drop, FrameHolder.unlock, source, unlock_snd]
    exact h.calls

theorem count {t : FrameHolder × Script} (h : Paired locks n t) : t.2.calls.count .lock = n := by
  have hdue : t.1.due.count .lock = 0 := by
    unfold FrameHolder.due
    cases t.1.held <;> rfl
  rw [← count_exchanges locks n, ← h.calls, List.count_append, hdue, Nat.add_zero]

theorem isHolding {t : FrameHolder × Script} (h : Paired locks n t) :
    t.1.isHolding = true ↔ t.2.calls ≠ exchanges locks n := by
  rw [← h.calls, ne_eq, List.self_eq_append_right, FrameHolder.due, FrameHolder.isHolding]
  cases t.1.held <;> simp

end Paired

/-- A script that was not called yet, and nothing held. -/
def unused (locks : List (Except Status LockedBuffer)) (unlocks : List (Except Status Unit))
    (data : Thunk Bytes) : FrameHolder × Script :=
  (.empty, { locks, unlocks, data, calls := [] })

theorem unused_paired (locks : List (Except Status LockedBuffer))
    (unlocks : List (Except Status Unit)) (data : Thunk Bytes) :
    Paired locks 0 (unused locks unlocks data) :=
  ⟨rfl, rfl⟩

/-- What a run comes to, with nothing said about the buffers that were given back. -/
theorem run_obliging (calls : List HolderCall) (f : FrameHolder) (s : Script) :
    FrameHolder.run source calls (f, s.obliging) =
      ((FrameHolder.run source calls (f, s)).1, (FrameHolder.run source calls (f, s)).2.1,
        (FrameHolder.run source calls (f, s)).2.2.obliging) :=
  FrameHolder.run_views views_obliging calls f s

/-- Whatever a source answers and whatever is asked of the holder, each buffer that the source
returned is given back once, before it is asked for another, and nothing else is given back. A
buffer is held just while its unlock is due, and the drop leaves none due. What the source says to
an unlock changes no answer, no holder and no call. -/
theorem locks_paired (locks : List (Except Status LockedBuffer)) (data : Thunk Bytes)
    (unlocks unlocks' : List (Except Status Unit)) (calls : List HolderCall) :
    let run := FrameHolder.run source calls (unused locks unlocks data)
    let other := FrameHolder.run source calls (unused locks unlocks' data)
    let locked := exchanges locks (run.2.2.calls.count .lock)
    run.2.2.calls ++ run.2.1.due = locked ∧
      (run.2.1.isHolding = true ↔ run.2.2.calls ≠ locked) ∧
      (FrameHolder.drop source run.2).calls = locked ∧
      other.1 = run.1 ∧ other.2.1 = run.2.1 ∧ other.2.2.calls = run.2.2.calls ∧
      (FrameHolder.drop source other.2).calls = (FrameHolder.drop source run.2).calls := by
  intro run other locked
  obtain ⟨n, h⟩ : ∃ n, Paired locks n run.2 := (unused_paired locks unlocks data).run calls
  obtain ⟨m, hother⟩ : ∃ m, Paired locks m other.2 :=
    (unused_paired locks unlocks' data).run calls
  have hlocked : locked = exchanges locks n := congrArg (exchanges locks) h.count
  have hobliging := run_obliging calls .empty (unused locks unlocks data).2
  have hobliging' := run_obliging calls .empty (unused locks unlocks' data).2
  have heq := hobliging'.symm.trans hobliging
  have hcalls : other.2.2.calls = run.2.2.calls := congrArg (·.2.2.calls) heq
  have hm : m = n := by rw [← hother.count, ← h.count, hcalls]
  rw [hlocked]
  exact ⟨h.calls, h.isHolding, h.drop, congrArg (·.1) heq, congrArg (·.2.1) heq, hcalls,
    by rw [hother.drop, h.drop, hm]⟩

end Script

end ScreenCapture
