import ScreenCapture.Config.Error
import ScreenCapture.Display.Info
import ScreenCapture.Text.Blank
import ScreenCapture.Text.Numeral

namespace ScreenCapture

/-- Size of a display and of the output that shows it, written as `1080x1920@540x960/90`. -/
structure Mirroring where
  realWidth : UInt32
  realHeight : UInt32
  virtualWidth : UInt32
  virtualHeight : UInt32
  orientation : Orientation
  deriving DecidableEq

namespace Mirroring

/-- Shows a display as it is. -/
def ofDisplay (info : DisplayInfo) : Mirroring :=
  { realWidth := info.width, realHeight := info.height, virtualWidth := info.width,
    virtualHeight := info.height, orientation := info.orientation }

def realInfo (p : Mirroring) : DisplayInfo := .ofGeometry p.realWidth p.realHeight .rotation0

def desiredInfo (p : Mirroring) : DisplayInfo :=
  .ofGeometry p.virtualWidth p.virtualHeight p.orientation

/-- A number of 32 bits with blanks around it. -/
def readWord? (s : List Char) : Option UInt32 :=
  match Text.readUnsigned 4294967295 (Text.trim s) with
  | .ok n => some (UInt32.ofNat n)
  | .error _ => none

/-- Two numbers with an `x` between them, neither of them zero. -/
def readSize? (s : List Char) : Option (UInt32 × UInt32) := do
  let (w, h) ← Text.splitAt? 'x' s
  let width ← readWord? w
  let height ← readWord? h
  if width = 0 ∨ height = 0 then none else some (width, height)

def read? (s : List Char) : Option Mirroring := do
  let (real, rest) ← Text.splitAt? '@' s
  let (virtualSize, degrees) ← Text.splitAt? '/' rest
  let (realWidth, realHeight) ← readSize? real
  let (virtualWidth, virtualHeight) ← readSize? virtualSize
  let degrees ← readWord? degrees
  let orientation ← Orientation.ofDegrees? degrees.toNat
  some { realWidth, realHeight, virtualWidth, virtualHeight, orientation }

/-- Reads a description, or tells which text describes nothing. -/
def parse (text : String) : Except ConfigError Mirroring :=
  match read? text.toList with
  | some p => .ok p
  | none => .error (.projection text)

def chars (p : Mirroring) : List Char :=
  Text.decimal p.realWidth.toNat ++ 'x' :: Text.decimal p.realHeight.toNat ++
    '@' :: Text.decimal p.virtualWidth.toNat ++ 'x' :: Text.decimal p.virtualHeight.toNat ++
    '/' :: Text.decimal p.orientation.degrees

def text (p : Mirroring) : String := String.ofList p.chars

end Mirroring

end ScreenCapture
