namespace ScreenCapture

/-- Pixel format of a frame, numbered on the wire in the order given here. -/
inductive PixelFormat
  | unset | custom | translucent | transparent | opaquePixels
  | rgba8888 | rgbx8888 | rgb888 | rgb565 | bgra8888 | rgba5551 | rgba4444
  | unknown
  deriving DecidableEq, Inhabited

/-- Format code of the graphics stack. -/
abbrev FormatCode := Int32

namespace PixelFormat

def all : List PixelFormat :=
  [unset, custom, translucent, transparent, opaquePixels, rgba8888, rgbx8888, rgb888, rgb565,
    bgra8888, rgba5551, rgba4444, unknown]

def name : PixelFormat → String
  | unset => "None"
  | custom => "Custom"
  | translucent => "Translucent"
  | transparent => "Transparent"
  | opaquePixels => "Opaque"
  | rgba8888 => "Rgba8888"
  | rgbx8888 => "Rgbx8888"
  | rgb888 => "Rgb888"
  | rgb565 => "Rgb565"
  | bgra8888 => "Bgra8888"
  | rgba5551 => "Rgba5551"
  | rgba4444 => "Rgba4444"
  | unknown => "Unknown"

def ofName? (s : String) : Option PixelFormat := all.find? (·.name = s)

def index : PixelFormat → Nat
  | unset => 0
  | custom => 1
  | translucent => 2
  | transparent => 3
  | opaquePixels => 4
  | rgba8888 => 5
  | rgbx8888 => 6
  | rgb888 => 7
  | rgb565 => 8
  | bgra8888 => 9
  | rgba5551 => 10
  | rgba4444 => 11
  | unknown => 12

def ofIndex? (i : Nat) : Option PixelFormat := all[i]?

/-- Bytes per pixel of a packed format. -/
def bytesPerPixel? : PixelFormat → Option UInt8
  | rgba8888 | rgbx8888 | bgra8888 => some 4
  | rgb888 => some 3
  | rgb565 | rgba5551 | rgba4444 => some 2
  | _ => none

/-- The codes that stand for a known format. -/
def codes : List (FormatCode × PixelFormat) :=
  [(0, unset), (-4, custom), (-3, translucent), (-2, transparent), (-1, opaquePixels),
    (1, rgba8888), (2, rgbx8888), (3, rgb888), (4, rgb565), (5, bgra8888), (6, rgba5551),
    (7, rgba4444)]

/-- Every other code is the unknown format. -/
def ofCode (code : FormatCode) : PixelFormat := (codes.lookup code).getD unknown

theorem ofIndex?_index (f : PixelFormat) : ofIndex? f.index = some f := by
  cases f <;> rfl

theorem ofName?_name (f : PixelFormat) : ofName? f.name = some f := by
  cases f <;> decide +kernel

theorem index_lt (f : PixelFormat) : f.index < 13 := by
  cases f <;> decide

end PixelFormat

namespace FormatCode

def rgba8888 : FormatCode := 1

def bgra8888 : FormatCode := 5

/-- Bytes per pixel of a code, zero when its format is not packed. -/
def bytesPerPixel (code : FormatCode) : UInt8 :=
  if code = 1 ∨ code = 2 ∨ code = 5 then 4
  else if code = 3 then 3
  else if code = 4 ∨ code = 6 ∨ code = 7 then 2
  else 0

end FormatCode

end ScreenCapture
