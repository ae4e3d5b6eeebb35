import ScreenCapture.Proofs.Painting
import ScreenCapture.Proofs.Ranges

namespace ScreenCapture

theorem Rect.isEmpty_eq_false {r : Rect} : r.isEmpty = false ↔ r.width ≠ 0 ∧ r.height ≠ 0 := by
  simp [isEmpty]

/-- Whether a point lies inside, looked at from left to right until the answer is known. -/
def Rect.containsRanged (r : Rect) (x y : UInt32) : Ranged Bool :=
  if r.x ≤ x ∧ r.y ≤ y then do
    let right ← Ranged.sub x r.x
    if right < r.width then
      let down ← Ranged.sub y r.y
      return down < r.height
    else return false
  else return false

theorem Rect.containsRanged_eq (r : Rect) (x y : UInt32) :
    r.containsRanged x y = .ok (r.contains x y) := by
  unfold containsRanged contains
  by_cases hcorner : r.x ≤ x ∧ r.y ≤ y
  · obtain ⟨hx, hy⟩ := hcorner
    rw [if_pos ⟨hx, hy⟩, Ranged.sub_of_le hx, Ranged.sub_of_le hy]
    by_cases hw : x - r.x < r.width <;> simp [hx, hy, hw]
  · have hfalse : (r.x ≤ x && r.y ≤ y : Bool) = false := by simpa using hcorner
    rw [if_neg hcorner, hfalse]
    rfl

namespace Projection

variable {R : Type} (A : Arithmetic R) (p : Projection)

def pixelAtRanged (position : R) (extent : UInt32) : Ranged UInt32 := do
  let last ← Ranged.sub extent 1
  return min (A.toPixels (A.mul position (A.ofPixels extent))) last

/-- The layer-stack pixel, or where its computation leaves the range of a word. -/
def layerPointRanged (x y : UInt32) : Ranged (Option (UInt32 × UInt32)) :=
  if p.layerStack.isEmpty then return none
  else do
    if ← p.visible.containsRanged x y then
      let right ← Ranged.sub x p.visible.x
      let down ← Ranged.sub y p.visible.y
      let n := unturn A p.orientation (centre A right p.visible.width)
        (centre A down p.visible.height)
      let lx ← pixelAtRanged A n.1 p.layerStack.width
      let ly ← pixelAtRanged A n.2 p.layerStack.height
      let column ← Ranged.add p.layerStack.x lx
      let row ← Ranged.add p.layerStack.y ly
      return some (column, row)
    else return none

theorem pixelAt_lt (position : R) {extent : UInt32} (hz : extent ≠ 0) :
    (pixelAt A position extent).toNat < extent.toNat := by
  have hpos := UInt32.le_iff_toNat_le.mp (one_le_of_ne_zero hz)
  have hle := UInt32.le_iff_toNat_le.mp (pixelAt_le A position extent)
  rw [toNat_sub_one hz] at hle
  rw [UInt32.toNat_one] at hpos
  omega

theorem pixelAtRanged_eq (position : R) {extent : UInt32} (hz : extent ≠ 0) :
    pixelAtRanged A position extent = .ok (pixelAt A position extent) := by
  rw [pixelAtRanged, Ranged.sub_of_le (one_le_of_ne_zero hz)]
  rfl

/-- A pixel of the layer stack, counted from its corner, is a word. -/
theorem corner_add_lt (position : R) {corner extent : UInt32} (hz : extent ≠ 0)
    (hfits : corner.toNat + extent.toNat ≤ 2 ^ 32) :
    corner.toNat + (pixelAt A position extent).toNat < 2 ^ 32 := by
  have hlt := pixelAt_lt A position hz
  omega

variable {p}

theorem layerPoint?_isSome (x y : UInt32) : (p.layerPoint? A x y).isSome ↔
    p.layerStack.isEmpty = false ∧ p.visible.contains x y = true := by
  unfold layerPoint?
  cases hz : p.layerStack.isEmpty <;> cases hv : p.visible.contains x y <;> simp

theorem layerPoint?_of_visible (hz : p.layerStack.isEmpty = false) {x y : UInt32}
    (hv : p.visible.contains x y = true) : ∃ u v : R,
    p.layerPoint? A x y = some (p.layerStack.x + pixelAt A u p.layerStack.width,
      p.layerStack.y + pixelAt A v p.layerStack.height) := by
  unfold layerPoint?
  rw [if_neg (by simp [hz, hv])]
  exact ⟨_, _, rfl⟩

variable (hx : p.layerStack.x.toNat + p.layerStack.width.toNat ≤ 2 ^ 32)
  (hy : p.layerStack.y.toNat + p.layerStack.height.toNat ≤ 2 ^ 32)

include hx hy

theorem layerPointRanged_eq (x y : UInt32) :
    p.layerPointRanged A x y = .ok (p.layerPoint? A x y) := by
  unfold layerPointRanged layerPoint?
  cases hz : p.layerStack.isEmpty with
  | true => rfl
  | false =>
    obtain ⟨hw, hh⟩ := Rect.isEmpty_eq_false.mp hz
    rw [Rect.containsRanged_eq]
    cases hv : p.visible.contains x y with
    | false => rfl
    | true =>
      have hcorner := (Rect.contains_iff _ _ _).mp hv
      simp only [Bool.false_eq_true, if_false, Ranged.ok_bind, if_true, Bool.not_true, Bool.or_self,
        Ranged.sub_of_le (UInt32.le_iff_toNat_le.mpr hcorner.1.1),
        Ranged.sub_of_le (UInt32.le_iff_toNat_le.mpr hcorner.2.1), pixelAtRanged_eq A _ hw,
        pixelAtRanged_eq A _ hh, Ranged.add_of_lt (corner_add_lt A _ hw hx),
        Ranged.add_of_lt (corner_add_lt A _ hh hy), Ranged.pure_eq_ok]

theorem contains_layerPoint? {x y lx ly : UInt32} (h : p.layerPoint? A x y = some (lx, ly)) :
    p.layerStack.contains lx ly = true := by
  obtain ⟨hz, hv⟩ := (layerPoint?_isSome A x y).mp (by rw [h]; rfl)
  obtain ⟨hw, hh⟩ := Rect.isEmpty_eq_false.mp hz
  obtain ⟨u, v, hp⟩ := layerPoint?_of_visible A hz hv
  rw [h] at hp
  cases hp
  rw [Rect.contains_iff, UInt32.toNat_add, UInt32.toNat_add,
    Nat.mod_eq_of_lt (corner_add_lt A u hw hx), Nat.mod_eq_of_lt (corner_add_lt A v hh hy)]
  have hu := pixelAt_lt A u hw
  have hv := pixelAt_lt A v hh
  omega

omit hx hy

/-- Whatever arithmetic positions are scaled in, and whatever it answers, the layer point is there
just for the points of the visible rectangle, over the integers, unless there is nothing to show. It
lies in the layer stack, and on the way to it no difference is negative and no sum too large. -/
theorem points_inside (p : Projection) (x y : UInt32)
    (hx : p.layerStack.x.toNat + p.layerStack.width.toNat ≤ 2 ^ 32)
    (hy : p.layerStack.y.toNat + p.layerStack.height.toNat ≤ 2 ^ 32) :
    ((p.layerPoint? A x y).isSome ↔
      (p.layerStack.width ≠ 0 ∧ p.layerStack.height ≠ 0) ∧
        (p.visible.x.toNat ≤ x.toNat ∧
          x.toNat < p.visible.x.toNat + p.visible.width.toNat) ∧
        p.visible.y.toNat ≤ y.toNat ∧
          y.toNat < p.visible.y.toNat + p.visible.height.toNat) ∧
      (∀ lx ly, p.layerPoint? A x y = some (lx, ly) → p.layerStack.contains lx ly = true) ∧
      p.layerPointRanged A x y = .ok (p.layerPoint? A x y) := by
  refine ⟨?_, fun _ _ => contains_layerPoint? A hx hy, layerPointRanged_eq A hx hy x y⟩
  rw [layerPoint?_isSome, Rect.isEmpty_eq_false, Rect.contains_iff]

/-- A layer stack that ends with the last coordinate, shown turned in a rectangle that reaches past
it. -/
theorem points_inside_edge :
    let p : Projection := ⟨.rotation90, ⟨4294967292, 0, 4, 2⟩, ⟨4294967290, 0, 100, 100⟩⟩
    p.layerStack.x.toNat + p.layerStack.width.toNat ≤ 2 ^ 32 ∧
      p.layerStack.y.toNat + p.layerStack.height.toNat ≤ 2 ^ 32 ∧
      ∃ lx ly, p.layerPixel? 4294967295 99 = some (lx, ly) ∧
        p.layerStack.contains lx ly = true ∧
        p.layerPointRanged .single 4294967295 99 = .ok (some (lx, ly)) := by
  intro p
  have hx : p.layerStack.x.toNat + p.layerStack.width.toNat ≤ 2 ^ 32 := by decide
  have hy : p.layerStack.y.toNat + p.layerStack.height.toNat ≤ 2 ^ 32 := by decide
  obtain ⟨hsome, hinside, hranged⟩ := points_inside .single p 4294967295 99 hx hy
  obtain ⟨⟨lx, ly⟩, hp⟩ := Option.isSome_iff_exists.mp (hsome.mpr (by decide))
  exact ⟨hx, hy, lx, ly, hp, hinside lx ly hp, hranged.trans (congrArg _ hp)⟩

end Projection

end ScreenCapture
