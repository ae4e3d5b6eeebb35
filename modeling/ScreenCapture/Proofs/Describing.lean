import ScreenCapture.Proofs.Pairing
import ScreenCapture.Proofs.WireFormat

namespace ScreenCapture

/-- The code of a format and the format itself agree on the bytes of a pixel. -/
theorem PixelFormat.bytesPerPixel_ofCode (code : FormatCode) :
    (ofCode code).bytesPerPixel?.getD 0 = code.bytesPerPixel := by
  by_cases h : code ∈ codes.map (·.1)
  · simp only [codes, List.map_cons, List.map_nil, List.mem_cons, List.not_mem_nil, or_false] at h
    rcases h with rfl | rfl | rfl | rfl | rfl | rfl | rfl | rfl | rfl | rfl | rfl | rfl <;> rfl
  · have hunknown : codes.lookup code = none := by
      rw [List.lookup_eq_none_iff]
      intro entry he
      exact bne_iff_ne.mpr fun heq => h (List.mem_map.mpr ⟨entry, he, heq.symm⟩)
    simp only [codes, List.map_cons, List.map_nil, List.mem_cons, List.not_mem_nil, or_false,
      not_or] at h
    simp [ofCode, hunknown, bytesPerPixel?, FormatCode.bytesPerPixel, h]

namespace FrameHeader

theorem cappedProduct_toNat (a b : UInt32) :
    (cappedProduct a b).toNat = min (a.toNat * b.toNat) (2 ^ 32 - 1) := by
  have hlt : min (a.toNat * b.toNat) (2 ^ 32 - 1) < 2 ^ 32 := by omega
  rw [cappedProduct, UInt32.toNat_ofNat']
  exact Nat.mod_eq_of_lt hlt

/-- Capping the pixels first makes no difference: more of them than a word can count take too many
bytes, or none at all. -/
theorem ofLayout_size (format : PixelFormat) (width height stride : UInt32) (bpp : UInt8) :
    (ofLayout format width height stride bpp).size.toNat =
      min (stride.toNat * height.toNat * bpp.toNat) (2 ^ 32 - 1) := by
  simp only [ofLayout, cappedProduct_toNat, UInt8.toNat_toUInt32]
  generalize stride.toNat * height.toNat = pixels
  rcases Nat.eq_zero_or_pos bpp.toNat with h0 | hpos
  · simp [h0]
  · rcases Nat.le_total pixels (2 ^ 32 - 1) with hp | hp
    · rw [Nat.min_eq_left hp]
    · have hbytes : 2 ^ 32 - 1 ≤ (2 ^ 32 - 1) * bpp.toNat := Nat.le_mul_of_pos_right _ hpos
      have hmore := Nat.mul_le_mul_right bpp.toNat hp
      rw [Nat.min_eq_right hp, Nat.min_eq_right hbytes, Nat.min_eq_right (hbytes.trans hmore)]

end FrameHeader

namespace LockedBuffer

def pixelCount (b : LockedBuffer) : Nat := b.stride.toNat * b.height.toNat

def byteCount (b : LockedBuffer) : Nat := b.pixelCount * b.format.bytesPerPixel.toNat

variable {b : LockedBuffer}

theorem size?_of_fits (hp : b.pixelCount < 2 ^ 32) (hb : b.byteCount < 2 ^ 32) :
    b.size? = some (UInt32.ofNat b.byteCount) :=
  if_pos ⟨hp, hb⟩

theorem size?_of_large (h : 2 ^ 32 ≤ b.pixelCount ∨ 2 ^ 32 ≤ b.byteCount) : b.size? = none := by
  refine if_neg fun ⟨hp, hb⟩ => ?_
  rcases h with h | h
  · exact Nat.not_lt.mpr h hp
  · exact Nat.not_lt.mpr h hb

theorem toNat_of_size? {size : UInt32} (h : b.size? = some size) : size.toNat = b.byteCount := by
  obtain ⟨⟨_, hb⟩, hs⟩ := Option.ite_none_right_eq_some.mp h
  rw [← Option.some.inj hs]
  exact UInt32.toNat_ofNat_of_lt' hb

/-- The pixels are fewer than the bytes, unless they take none. -/
theorem pixelCount_le (h : b.format.bytesPerPixel ≠ 0) : b.pixelCount ≤ b.byteCount :=
  Nat.le_mul_of_pos_right _ (Nat.pos_of_ne_zero fun h0 => h (UInt8.toNat_inj.mp h0))

end LockedBuffer

/-- A frame shows the buffer as it was locked, and its header can be checked and sent. -/
structure Frame.Describes (frame : Frame) (buffer : LockedBuffer) (data : Thunk Bytes) : Prop where
  data : frame.data = data
  format : frame.format = .ofCode buffer.format
  width : frame.width = buffer.width
  height : frame.height = buffer.height
  stride : frame.stride = buffer.stride
  number : frame.number = buffer.number
  timestamp : frame.timestamp = buffer.timestamp
  bytesPerPixel : frame.bytesPerPixel = frame.format.bytesPerPixel?.getD 0
  size : frame.size.toNat = buffer.stride.toNat * buffer.height.toNat * frame.bytesPerPixel.toNat
  header : frame.header =
    .ofLayout frame.format frame.width frame.height frame.stride frame.bytesPerPixel
  valid : frame.header.validate = .ok ()
  reread : FrameHeader.decode frame.header.encode = .ok frame.header

theorem LockedBuffer.frame?_describes {b : LockedBuffer} {size : UInt32} (h : b.size? = some size)
    (data : Thunk Bytes) : ∃ frame, b.frame? data = some frame ∧ frame.Describes b data := by
  have hsize := toNat_of_size? h
  have hlayout : b.stride.toNat * b.height.toNat * b.format.bytesPerPixel.toNat = size.toNat :=
    hsize.symm
  refine ⟨_, by rw [frame?, h, Option.map_some], ?_⟩
  exact {
    data := rfl
    format := rfl
    width := rfl
    height := rfl
    stride := rfl
    number := rfl
    timestamp := rfl
    bytesPerPixel := (PixelFormat.bytesPerPixel_ofCode b.format).symm
    size := hsize
    header := by
      have hfits : size.toNat ≤ 2 ^ 32 - 1 := Nat.le_sub_one_of_lt size.toNat_lt
      have hderived := FrameHeader.ofLayout_size (.ofCode b.format) b.width b.height b.stride
        b.format.bytesPerPixel
      rw [hlayout, Nat.min_eq_left hfits] at hderived
      rw [Frame.header, ← UInt32.toNat_inj.mp hderived]
      rfl
    valid := if_pos hlayout
    reread := (FrameHeader.decode_encode _).trans (if_pos hlayout) }

/-- What is held after an answer. -/
def HolderAnswer.held (before : Option LockedBuffer) : HolderAnswer → Option LockedBuffer
  | locked (.ok buffer) => some buffer
  | unlocked _ => none
  | locked (.error _) | frame _ => before

/-- The buffer that was locked last, if it was not given back since. -/
def HolderAnswer.outstanding (answers : List HolderAnswer) : Option LockedBuffer :=
  answers.foldl held none

namespace FrameHolder

variable {σ : Type} {source : BufferSource σ} {f : FrameHolder} {s after : σ}
  {buffer : LockedBuffer}

theorem lockNext_of_fits (hf : f.isHolding = false) (hs : source.lock s = (.ok buffer, after))
    (hp : buffer.pixelCount < 2 ^ 32) (hb : buffer.byteCount < 2 ^ 32) :
    f.lockNext source s = (.ok buffer, ⟨some buffer⟩, after) := by
  simp only [lockNext, hf, hs, LockedBuffer.size?_of_fits hp hb]
  rfl

theorem lockNext_of_large (hf : f.isHolding = false) (hs : source.lock s = (.ok buffer, after))
    (hlarge : 2 ^ 32 ≤ buffer.pixelCount ∨ 2 ^ 32 ≤ buffer.byteCount) : f.lockNext source s =
      (.error (.lockFailed Status.badValue.name), f, (source.unlock buffer after).2) := by
  simp only [lockNext, hf, hs, LockedBuffer.size?_of_large hlarge]
  rfl

/-- Nothing is held that cannot be described. -/
def Describable (f : FrameHolder) : Prop :=
  ∀ buffer, f.held = some buffer → ∃ size, buffer.size? = some size

theorem lockNext_held (source : BufferSource σ) (f : FrameHolder) (s : σ) :
    (f.lockNext source s).2.1.held =
      (HolderAnswer.locked (f.lockNext source s).1).held f.held := by
  unfold lockNext
  split
  next => rfl
  next =>
    split
    next => rfl
    next => split <;> rfl

theorem lockNext_describable (h : f.Describable) (source : BufferSource σ) (s : σ) :
    (f.lockNext source s).2.1.Describable := by
  unfold lockNext
  split
  next => exact h
  next =>
    split
    next => exact h
    next buffer _ =>
      split
      next => exact h
      next size hsize =>
        intro other he
        obtain rfl := Option.some.inj he
        exact ⟨size, hsize⟩

theorem call_held (source : BufferSource σ) (t : FrameHolder × σ) (x : HolderCall) :
    (call source t x).2.1.held = (call source t x).1.held t.1.held := by
  cases x with
  | lock => exact lockNext_held source t.1 t.2
  | unlock =>
    simp only [call, unlock, HolderAnswer.held]
    cases hh : t.1.held with
    | none => exact hh
    | some buffer => rfl
  | frame => rfl

theorem call_describable (source : BufferSource σ) {t : FrameHolder × σ} (h : t.1.Describable)
    (x : HolderCall) : (call source t x).2.1.Describable := by
  cases x with
  | lock => exact lockNext_describable h source t.2
  | unlock =>
    simp only [call, unlock]
    cases t.1.held with
    | none => exact h
    | some buffer => simp [Describable]
  | frame => exact h

theorem run_held (source : BufferSource σ) (calls : List HolderCall) (t : FrameHolder × σ) :
    (run source calls t).2.1.held = (run source calls t).1.foldl HolderAnswer.held t.1.held := by
  induction calls generalizing t with
  | nil => rfl
  | cons x rest ih => rw [run, List.foldl_cons, ← call_held, ih]

theorem run_describable (source : BufferSource σ) (calls : List HolderCall) {t : FrameHolder × σ}
    (h : t.1.Describable) : (run source calls t).2.1.Describable := by
  induction calls generalizing t with
  | nil => exact h
  | cons x rest ih => exact ih (call_describable source h x)

/-- Whatever buffers a source returns and whatever was asked of their holder, a frame is seen just
while a locked buffer is not given back, and it describes that buffer: the size is the exact number
of bytes, the bytes of a pixel are those of the format, and the header is the one that follows from
the layout, which is accepted and read back as it was written. -/
theorem views_consistent (source : BufferSource σ) (s : σ) (calls : List HolderCall) :
    let (answers, holder, after) := run source calls (.empty, s)
    match HolderAnswer.outstanding answers with
    | none => holder.frame? source after = none
    | some buffer => ∃ frame, holder.frame? source after = some frame ∧
        frame.Describes buffer (source.data after) := by
  have hheld := run_held source calls (.empty, s)
  have hsize := run_describable source calls (t := (.empty, s)) nofun
  generalize run source calls (.empty, s) = t at hheld hsize
  obtain ⟨answers, holder, after⟩ := t
  have hout : holder.held = HolderAnswer.outstanding answers := hheld
  simp only [frame?, hout]
  cases ho : HolderAnswer.outstanding answers with
  | none => rfl
  | some buffer =>
    obtain ⟨size, hb⟩ := hsize buffer (hout.trans ho)
    exact LockedBuffer.frame?_describes hb (source.data after)

/-- A buffer of a packed format is refused, and given back, just when its bytes are too many for a
word, and held otherwise. One whose pixels take no bytes has no size that could be too large, but is
refused when its pixels are too many for a word. -/
theorem oversized_refused (hf : f.isHolding = false) (hs : source.lock s = (.ok buffer, after)) :
    let held := (Except.ok buffer, (⟨some buffer⟩ : FrameHolder), after)
    let refused :=
      (.error (.lockFailed Status.badValue.name), f, (source.unlock buffer after).2)
    (2 ^ 32 ≤ buffer.byteCount → f.lockNext source s = refused) ∧
      (buffer.byteCount < 2 ^ 32 →
        buffer.format.bytesPerPixel ≠ 0 ∨ buffer.pixelCount < 2 ^ 32 →
        f.lockNext source s = held) ∧
      (buffer.format.bytesPerPixel = 0 → buffer.byteCount = 0 ∧
        (2 ^ 32 ≤ buffer.pixelCount → f.lockNext source s = refused)) := by
  intro held refused
  refine ⟨fun hb => lockNext_of_large hf hs (.inr hb), fun hb hpacked => ?_, fun h0 => ⟨?_, ?_⟩⟩
  · have hp : buffer.pixelCount < 2 ^ 32 := by
      rcases hpacked with hpacked | hp
      · exact Nat.lt_of_le_of_lt (LockedBuffer.pixelCount_le hpacked) hb
      · exact hp
    exact lockNext_of_fits hf hs hp hb
  · rw [LockedBuffer.byteCount, h0]
    exact Nat.mul_zero _
  · exact fun hp => lockNext_of_large hf hs (.inl hp)

/-- A frame of 40000 by 30000 pixels is given back. -/
theorem oversized_refused_packed :
    let b : LockedBuffer := ⟨0, 40000, 30000, 40000, .rgba8888, 0, 0⟩
    let s : Script := ⟨[.ok b], [], .pure #[], []⟩
    (Script.source.lock s).1 = .ok b ∧ 2 ^ 32 ≤ b.byteCount ∧
      empty.lockNext Script.source s = (.error (.lockFailed Status.badValue.name), empty,
        ⟨[], [], .pure #[], [.lock, .unlock b]⟩) := by
  intro b s
  have hlarge : 2 ^ 32 ≤ b.byteCount := by decide
  have hs : Script.source.lock s = (.ok b, ⟨[], [], .pure #[], [.lock]⟩) := rfl
  exact ⟨rfl, hlarge, (oversized_refused (f := empty) rfl hs).1 hlarge⟩

/-- So is a buffer without packed pixels, although its bytes fit in a word: there are none. -/
theorem unpacked_refused :
    let b : LockedBuffer := ⟨0, 65536, 65536, 65536, 42, 0, 0⟩
    let s : Script := ⟨[.ok b], [], .pure #[], []⟩
    b.byteCount < 2 ^ 32 ∧ (Script.source.lock s).1 = .ok b ∧
      empty.lockNext Script.source s = (.error (.lockFailed Status.badValue.name), empty,
        ⟨[], [], .pure #[], [.lock, .unlock b]⟩) :=
  ⟨by decide, rfl, rfl⟩

end FrameHolder

end ScreenCapture
