import Mathlib.Algebra.Group.Nat.Defs
import ScreenCapture.Geometry.Pattern

namespace ScreenCapture

/-- How a computation leaves the range of what it computes with. -/
inductive RangeFault
  /-- A difference below zero. -/
  | negative
  /-- A sum or a product past the largest word. -/
  | overflow
  /-- A word that does not fit in a byte. -/
  | lossy
  /-- A place outside the data. -/
  | outside

/-- A computation that ends as soon as it leaves its range. -/
abbrev Ranged := Except RangeFault

namespace Ranged

def sub (a b : UInt32) : Ranged UInt32 := if b ≤ a then .ok (a - b) else .error .negative

def add (a b : UInt32) : Ranged UInt32 :=
  if a.toNat + b.toNat < 2 ^ 32 then .ok (a + b) else .error .overflow

def mul (a b : UInt32) : Ranged UInt32 :=
  if a.toNat * b.toNat < 2 ^ 32 then .ok (a * b) else .error .overflow

def narrow (a : UInt32) : Ranged UInt8 :=
  if a.toNat < 2 ^ 8 then .ok a.toUInt8 else .error .lossy

/-- The bytes from one place of the data up to another. -/
def slice (data : Bytes) (first last : Nat) : Ranged Bytes :=
  if first ≤ last ∧ last ≤ data.size then .ok (data.extract first last) else .error .outside

variable {α β : Type}

@[simp] theorem ok_bind (a : α) (f : α → Ranged β) : (Except.ok a >>= f : Ranged β) = f a := rfl

@[simp] theorem pure_eq_ok (a : α) : (pure a : Ranged α) = .ok a := rfl

theorem sub_of_le {a b : UInt32} (h : b ≤ a) : sub a b = .ok (a - b) := if_pos h

theorem add_of_lt {a b : UInt32} (h : a.toNat + b.toNat < 2 ^ 32) : add a b = .ok (a + b) :=
  if_pos h

theorem mul_of_lt {a b : UInt32} (h : a.toNat * b.toNat < 2 ^ 32) : mul a b = .ok (a * b) :=
  if_pos h

theorem narrow_of_lt {a : UInt32} (h : a.toNat < 2 ^ 8) : narrow a = .ok a.toUInt8 := if_pos h

theorem slice_of_le {data : Bytes} {first last : Nat} (h : first ≤ last) (hs : last ≤ data.size) :
    slice data first last = .ok (data.extract first last) :=
  if_pos ⟨h, hs⟩

theorem mapM_of_ok {f : α → Ranged β} {g : α → β} {l : List α} (h : ∀ a ∈ l, f a = .ok (g a)) :
    l.mapM f = .ok (l.map g) := by
  induction l with
  | nil => rfl
  | cons a l ih =>
    rw [List.mapM_cons, h a (by simp), ok_bind, ih fun b hb => h b (by simp [hb])]
    rfl

/-- A loop whose steps stay in their range, as long as what they work on keeps its shape. -/
theorem foldlM_range_of_ok {f : β → Nat → Ranged β} {g : Nat → β → β} {I : β → Prop} {n : Nat}
    {b : β} (hI : ∀ i b, I b → I (g i b)) (hf : ∀ i < n, ∀ b, I b → f b i = .ok (g i b))
    (hb : I b) :
    (List.range n).foldlM f b = .ok (n.fold (fun i _ b => g i b) b) ∧
      I (n.fold (fun i _ b => g i b) b) := by
  induction n with
  | zero => exact ⟨rfl, hb⟩
  | succ n ih =>
    obtain ⟨hfold, hkept⟩ := ih fun i hi => hf i (Nat.lt_succ_of_lt hi)
    rw [List.range_succ, List.foldlM_append, hfold, ok_bind, List.foldlM_cons,
      hf n (Nat.lt_succ_self n) _ hkept, Nat.fold_succ]
    exact ⟨rfl, hI n _ hkept⟩

end Ranged

end ScreenCapture
