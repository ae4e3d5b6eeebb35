import ScreenCapture.Bytes.Word
import ScreenCapture.PixelFormat

namespace ScreenCapture

/-- Memory layout of one frame: rows lie `stride` pixels apart. -/
structure FrameHeader where
  format : PixelFormat
  width : UInt32
  height : UInt32
  stride : UInt32
  bpp : UInt8
  size : UInt32
  deriving DecidableEq

/-- Why a header is not accepted. -/
inductive HeaderError
  | endOfInput
  | unknownFormat (index : UInt32)
  | versionMismatch (actual : UInt32)
  | sizeMismatch (declared : UInt32) (expected : Nat)
  deriving DecidableEq

namespace FrameHeader

/-- Version written in front of every header. -/
def wireVersion : UInt32 := 1

/-- Product of two words, capped at the largest word. -/
def cappedProduct (a b : UInt32) : UInt32 := UInt32.ofNat (min (a.toNat * b.toNat) 4294967295)

/-- Header of a layout, with the size that follows from it. -/
def ofLayout (format : PixelFormat) (width height stride : UInt32) (bpp : UInt8) : FrameHeader :=
  { format, width, height, stride, bpp,
    size := cappedProduct (cappedProduct stride height) bpp.toUInt32 }

/-- Bytes that the layout takes, whatever size the header declares. -/
def layoutSize (h : FrameHeader) : Nat := h.stride.toNat * h.height.toNat * h.bpp.toNat

/-- Bytes of one row without its padding. -/
def rowBytes (h : FrameHeader) : Nat := h.width.toNat * h.bpp.toNat

def validate (h : FrameHeader) : Except HeaderError Unit :=
  if h.layoutSize = h.size.toNat then .ok () else .error (.sizeMismatch h.size h.layoutSize)

/-- Version, format index, sides, stride, bytes per pixel and size, in 25 bytes. -/
def encode (h : FrameHeader) : List UInt8 :=
  Word.toBytes wireVersion ++ Word.toBytes (UInt32.ofNat h.format.index) ++ Word.toBytes h.width ++
    Word.toBytes h.height ++ Word.toBytes h.stride ++ [h.bpp] ++ Word.toBytes h.size

/-- Takes a word, or reports that the input ends. -/
def word (bytes : List UInt8) : Except HeaderError (UInt32 × List UInt8) :=
  match Word.take? bytes with
  | some r => .ok r
  | none => .error .endOfInput

def byte : List UInt8 → Except HeaderError (UInt8 × List UInt8)
  | b :: rest => .ok (b, rest)
  | [] => .error .endOfInput

def formatOf (index : UInt32) : Except HeaderError PixelFormat :=
  match PixelFormat.ofIndex? index.toNat with
  | some f => .ok f
  | none => .error (.unknownFormat index)

/-- Reads version and header as they stand, in the order in which they are written. -/
def read (bytes : List UInt8) : Except HeaderError (UInt32 × FrameHeader) := do
  let (version, bytes) ← word bytes
  let (index, bytes) ← word bytes
  let format ← formatOf index
  let (width, bytes) ← word bytes
  let (height, bytes) ← word bytes
  let (stride, bytes) ← word bytes
  let (bpp, bytes) ← byte bytes
  let (size, _) ← word bytes
  .ok (version, { format, width, height, stride, bpp, size })

/-- Reads a header of the current version whose size agrees with its layout. What follows the
header is not looked at. -/
def decode (bytes : List UInt8) : Except HeaderError FrameHeader := do
  let (version, h) ← read bytes
  if version ≠ wireVersion then .error (.versionMismatch version)
  h.validate
  .ok h

theorem length_encode (h : FrameHeader) : h.encode.length = 25 := by
  simp [encode, Word.length_toBytes]

end FrameHeader

def HeaderError.message : HeaderError → String
  | endOfInput => "Serialization error: io error: unexpected end of file"
  | unknownFormat i =>
    s!"Serialization error: invalid value: integer `{i}`, expected variant index 0 <= i < 13"
  | versionMismatch actual =>
    s!"Protocol version mismatch: expected {FrameHeader.wireVersion}, got {actual}"
  | sizeMismatch declared expected =>
    s!"Frame size mismatch: header says {declared} bytes, layout needs {expected}"

end ScreenCapture
