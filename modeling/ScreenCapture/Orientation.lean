namespace ScreenCapture

/-- Rotation of a display in clockwise quarter turns. -/
inductive Orientation
  | rotation0 | rotation90 | rotation180 | rotation270
  deriving DecidableEq, Inhabited

namespace Orientation

def ofQuarterTurns? : Nat → Option Orientation
  | 0 => some rotation0
  | 1 => some rotation90
  | 2 => some rotation180
  | 3 => some rotation270
  | _ => none

def ofDegrees? : Nat → Option Orientation
  | 0 => some rotation0
  | 90 => some rotation90
  | 180 => some rotation180
  | 270 => some rotation270
  | _ => none

def quarterTurns : Orientation → Nat
  | rotation0 => 0
  | rotation90 => 1
  | rotation180 => 2
  | rotation270 => 3

def degrees (o : Orientation) : Nat := o.quarterTurns * 90

/-- Whether the rotation swaps width and height. -/
def isTransposed : Orientation → Bool
  | rotation90 | rotation270 => true
  | rotation0 | rotation180 => false

def name : Orientation → String
  | rotation0 => "Rotation0"
  | rotation90 => "Rotation90"
  | rotation180 => "Rotation180"
  | rotation270 => "Rotation270"

theorem ofQuarterTurns?_quarterTurns (o : Orientation) :
    ofQuarterTurns? o.quarterTurns = some o := by
  cases o <;> rfl

theorem ofDegrees?_degrees (o : Orientation) : ofDegrees? o.degrees = some o := by
  cases o <;> rfl

theorem degrees_of_ofDegrees? {n : Nat} {o : Orientation} (h : ofDegrees? n = some o) :
    o.degrees = n := by
  unfold ofDegrees? at h
  split at h <;> simp_all
  all_goals subst h; rfl

end Orientation

/-- A quarter-turn count that names no orientation. -/
structure InvalidOrientation where
  turns : Nat
  deriving DecidableEq

def InvalidOrientation.message (e : InvalidOrientation) : String :=
  s!"Invalid orientation: {e.turns}"

/-- Reads a quarter-turn count, refusing anything above three. -/
def Orientation.ofQuarterTurns (turns : Nat) : Except InvalidOrientation Orientation :=
  match ofQuarterTurns? turns with
  | some o => .ok o
  | none => .error ⟨turns⟩

end ScreenCapture
