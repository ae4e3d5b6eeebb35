namespace ScreenCapture

/-- Pixel rectangle with its sides along the axes. -/
structure Rect where
  x : UInt32
  y : UInt32
  width : UInt32
  height : UInt32
  deriving DecidableEq

namespace Rect

/-- Rectangle with a corner at the origin. -/
def ofSize (width height : UInt32) : Rect := ⟨0, 0, width, height⟩

def isEmpty (r : Rect) : Bool := r.width = 0 || r.height = 0

def contains (r : Rect) (x y : UInt32) : Bool :=
  r.x ≤ x && r.y ≤ y && x - r.x < r.width && y - r.y < r.height

/-- The rectangle with the axes exchanged. -/
def transpose (r : Rect) : Rect := ⟨r.y, r.x, r.height, r.width⟩

/-- A point lies inside iff it does so over the integers, also for a rectangle that reaches past
the largest coordinate. -/
theorem contains_iff (r : Rect) (x y : UInt32) : r.contains x y = true ↔
    (r.x.toNat ≤ x.toNat ∧ x.toNat < r.x.toNat + r.width.toNat) ∧
      (r.y.toNat ≤ y.toNat ∧ y.toNat < r.y.toNat + r.height.toNat) := by
  simp only [contains, Bool.and_eq_true, decide_eq_true_eq, UInt32.le_iff_toNat_le,
    UInt32.lt_iff_toNat_lt]
  constructor
  · rintro ⟨⟨⟨hx, hy⟩, hw⟩, hh⟩
    rw [UInt32.toNat_sub_of_le _ _ (UInt32.le_iff_toNat_le.mpr hx)] at hw
    rw [UInt32.toNat_sub_of_le _ _ (UInt32.le_iff_toNat_le.mpr hy)] at hh
    omega
  · rintro ⟨⟨hx, hw⟩, hy, hh⟩
    rw [UInt32.toNat_sub_of_le _ _ (UInt32.le_iff_toNat_le.mpr hx),
      UInt32.toNat_sub_of_le _ _ (UInt32.le_iff_toNat_le.mpr hy)]
    omega

theorem contains_transpose (r : Rect) (x y : UInt32) :
    r.transpose.contains y x = r.contains x y := by
  rw [Bool.eq_iff_iff, contains_iff, contains_iff]
  exact And.comm

end Rect

end ScreenCapture
