import ScreenCapture.Proofs.Containment

namespace ScreenCapture

namespace Projection

variable {R : Type} (A : Arithmetic R) (layer visible : Rect) (x y : UInt32)

/-- Where an output pixel lies in the visible rectangle, as fractions of its sides. -/
def position? : Option (R × R) :=
  if layer.isEmpty || !visible.contains x y then none
  else some (centre A (x - visible.x) visible.width, centre A (y - visible.y) visible.height)

/-- The layer-stack pixel at fractions of the sides of the layer stack. -/
def pointAt (n : R × R) : UInt32 × UInt32 :=
  (layer.x + pixelAt A n.1 layer.width, layer.y + pixelAt A n.2 layer.height)

/-- The orientation plays no part in where the pixel lies, only in what is shown there. -/
theorem layerPoint?_eq_map (o : Orientation) :
    (Projection.mk o layer visible).layerPoint? A x y =
      (position? A layer visible x y).map fun n => pointAt A layer (unturn A o n.1 n.2) := by
  unfold layerPoint? position?
  split <;> rfl

/-- With the axes exchanged, the two fractions change places. -/
theorem position?_transpose :
    position? A layer visible.transpose y x = (position? A layer visible x y).map Prod.swap := by
  unfold position?
  rw [Rect.contains_transpose]
  split <;> rfl

/-- A quarter turn shows what is shown without it, one way along the columns and the other way along
the rows, at the point with its coordinates exchanged of the rectangle with its axes exchanged. -/
theorem quarter_turns :
    let turned (o : Orientation) := (Projection.mk o layer visible).layerPoint? A x y
    let exchanged (o : Orientation) :=
      (Projection.mk o layer visible.transpose).layerPoint? A y x
    ((turned .rotation90 = none ↔ exchanged .rotation0 = none) ∧
      ∀ p, turned .rotation90 = some p → ∃ upright reversed, exchanged .rotation0 = some upright ∧
        exchanged .rotation180 = some reversed ∧ p = (upright.1, reversed.2)) ∧
    (turned .rotation270 = none ↔ exchanged .rotation0 = none) ∧
      ∀ p, turned .rotation270 = some p → ∃ upright reversed, exchanged .rotation0 = some upright ∧
        exchanged .rotation180 = some reversed ∧ p = (reversed.1, upright.2) := by
  intro turned exchanged
  have hturned (o : Orientation) : turned o = _ := layerPoint?_eq_map A layer visible x y o
  have hexchanged (o : Orientation) : exchanged o = _ :=
    layerPoint?_eq_map A layer visible.transpose y x o
  simp only [hturned, hexchanged, position?_transpose]
  cases position? A layer visible x y with
  | none => exact ⟨⟨Iff.rfl, nofun⟩, Iff.rfl, nofun⟩
  | some n =>
    -- both ways round, the fractions are `v, 1 - u` and `1 - v, u`
    refine ⟨⟨by simp, fun p hp => ?_⟩, by simp, fun p hp => ?_⟩
    · exact ⟨_, _, rfl, rfl, (Option.some.inj hp).symm⟩
    · exact ⟨_, _, rfl, rfl, (Option.some.inj hp).symm⟩

end Projection

end ScreenCapture
