import ScreenCapture.Frame.Basic
import ScreenCapture.Status

namespace ScreenCapture

/-- Description of a buffer that is locked for reading. -/
structure LockedBuffer where
  slot : Nat
  width : UInt32
  height : UInt32
  stride : UInt32
  format : FormatCode
  number : Nat
  timestamp : Int
  deriving DecidableEq

namespace LockedBuffer

/-- Bytes of the buffer, none when its pixels or its bytes are too many for a word. -/
def size? (b : LockedBuffer) : Option UInt32 :=
  let pixels := b.stride.toNat * b.height.toNat
  let bytes := pixels * b.format.bytesPerPixel.toNat
  if pixels < UInt32.size ∧ bytes < UInt32.size then some (UInt32.ofNat bytes) else none

/-- The frame in the buffer. -/
def frame? (b : LockedBuffer) (data : Thunk Bytes) : Option Frame :=
  b.size?.map fun size =>
    { data, format := .ofCode b.format, width := b.width, height := b.height, stride := b.stride,
      bytesPerPixel := b.format.bytesPerPixel, size, number := b.number, timestamp := b.timestamp }

end LockedBuffer

/-- What frames are locked from: one buffer after another, with its data while it is locked. -/
structure BufferSource (σ : Type) where
  lock : σ → Except Status LockedBuffer × σ
  data : σ → Thunk Bytes
  unlock : LockedBuffer → σ → Except Status Unit × σ

end ScreenCapture
