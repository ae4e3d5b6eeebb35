import Mathlib.Algebra.Group.Nat.Defs
import Mathlib.Order.Bounds.Defs
import ScreenCapture.Proofs.Holding

namespace ScreenCapture

namespace OutputParams

/-- The width of the output, rounded up to whole groups of 32 pixels. -/
def alignedWidth (p : OutputParams) : Nat := (p.desiredWidth.toNat + 31) / 32 * 32

/-- The bytes of a frame. -/
def frameSize (p : OutputParams) : Nat := p.alignedWidth * p.desiredHeight.toNat * 4

variable {p : OutputParams}

theorem alignedWidth_isLeast (p : OutputParams) :
    IsLeast {n | 32 ∣ n ∧ p.desiredWidth.toNat ≤ n} p.alignedWidth := by
  unfold alignedWidth
  refine ⟨⟨Nat.dvd_mul_left _ _, by omega⟩, ?_⟩
  rintro n ⟨⟨d, rfl⟩, hn⟩
  omega

theorem sides_of_hasZeroSide (hz : p.hasZeroSide = false) :
    p.desiredWidth ≠ 0 ∧ p.desiredHeight ≠ 0 ∧ p.realWidth ≠ 0 ∧ p.realHeight ≠ 0 := by
  simp only [hasZeroSide, Bool.or_eq_false_iff, decide_eq_false_iff_not] at hz
  exact ⟨hz.1.1.1, hz.1.1.2, hz.1.2, hz.2⟩

theorem alignedWidth_lt (hz : p.hasZeroSide = false) (h : p.frameSize < 2 ^ 32) :
    p.alignedWidth < 2 ^ 32 := by
  have hheight : 0 < p.desiredHeight.toNat :=
    Nat.pos_of_ne_zero fun h0 => (sides_of_hasZeroSide hz).2.1 (UInt32.toNat_inj.mp h0)
  have hle := Nat.le_mul_of_pos_right p.alignedWidth hheight
  unfold frameSize at h
  omega

theorem paddedWidth_toNat (hlt : p.alignedWidth < 2 ^ 32) :
    (Queue.paddedWidth p.desiredWidth).toNat = p.alignedWidth := by
  have hw := p.desiredWidth.toNat_lt
  have hmod : p.desiredWidth % 32 = 0 ↔ p.desiredWidth.toNat % 32 = 0 := by
    rw [← UInt32.toNat_inj]
    simp
  unfold alignedWidth at hlt ⊢
  unfold Queue.paddedWidth
  by_cases h0 : p.desiredWidth % 32 = 0
  · have h0' := hmod.mp h0
    simp [h0]
    omega
  · have h0' := mt hmod.mpr h0
    simp [h0]
    omega

end OutputParams

namespace Site

variable {s : Site}

theorem canvas_stride (hz : s.params.hasZeroSide = false) (h : s.params.frameSize < 2 ^ 32) :
    s.canvas.stride.toNat = s.params.alignedWidth :=
  OutputParams.paddedWidth_toNat (OutputParams.alignedWidth_lt hz h)

/-- A frame whose size fits in a word can be described. -/
theorem buffer_size? (hz : s.params.hasZeroSide = false) (h : s.params.frameSize < 2 ^ 32)
    (n : Nat) : (s.buffer n).size? = some (UInt32.ofNat s.params.frameSize) := by
  have hstride : (s.buffer n).stride.toNat = s.params.alignedWidth := canvas_stride hz h
  have hheight : (s.buffer n).height = s.params.desiredHeight := rfl
  have hbytes : (s.buffer n).format.bytesPerPixel.toNat = 4 := rfl
  unfold OutputParams.frameSize at h ⊢
  have hword : UInt32.size = 2 ^ 32 := rfl
  simp only [LockedBuffer.size?, hstride, hheight, hbytes, hword]
  rw [if_pos ⟨by omega, h⟩]

/-- A frame whose size does not fit in a word cannot. -/
theorem buffer_size?_eq_none (hw : s.params.alignedWidth < 2 ^ 32)
    (h : 2 ^ 32 ≤ s.params.frameSize) (n : Nat) : (s.buffer n).size? = none := by
  have hstride : (s.buffer n).stride.toNat = s.params.alignedWidth :=
    OutputParams.paddedWidth_toNat hw
  have hheight : (s.buffer n).height = s.params.desiredHeight := rfl
  have hbytes : (s.buffer n).format.bytesPerPixel.toNat = 4 := rfl
  unfold OutputParams.frameSize at h
  have hword : UInt32.size = 2 ^ 32 := rfl
  simp only [LockedBuffer.size?, hstride, hheight, hbytes, hword]
  rw [if_neg fun hfits => Nat.not_lt.mpr h hfits.2]

end Site

end ScreenCapture
