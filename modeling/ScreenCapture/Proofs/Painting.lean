import Mathlib.Algebra.Group.Nat.Defs
import ScreenCapture.Geometry.Pattern

namespace ScreenCapture

namespace Color

/-- The bytes of a colour, in the order of a format. -/
def byte (color : Color) (format : FormatCode) : Nat → UInt8
  | 0 => if format = FormatCode.bgra8888 then color.blue else color.red
  | 1 => color.green
  | 2 => if format = FormatCode.bgra8888 then color.red else color.blue
  | _ => color.alpha

theorem write_eq (color : Color) (format : FormatCode) (data : Bytes) (offset : Nat) :
    color.write format data offset =
      (((data.setIfInBounds offset (color.byte format 0)).setIfInBounds (offset + 1)
        (color.byte format 1)).setIfInBounds (offset + 2) (color.byte format 2)).setIfInBounds
          (offset + 3) (color.byte format 3) := by
  by_cases hf : format = FormatCode.bgra8888 <;> simp [write, byte, hf]

theorem size_write (color : Color) (format : FormatCode) (data : Bytes) (offset : Nat) :
    (color.write format data offset).size = data.size := by
  simp only [write_eq, Array.size_setIfInBounds]

theorem getElem?_set (data : Bytes) (i j : Nat) (b : UInt8) :
    (data.setIfInBounds i b)[j]? = if j = i then data[j]?.map fun _ => b else data[j]? := by
  by_cases h : j = i
  · subst h
    by_cases hj : j < data.size <;> simp [hj]
  · simp [Array.getElem?_setIfInBounds_ne, Ne.symm h, h]

theorem getElem?_write (color : Color) (format : FormatCode) (data : Bytes) (q i : Nat) :
    (color.write format data (q * 4))[i]? =
      if i / 4 = q then data[i]?.map fun _ => color.byte format (i % 4) else data[i]? := by
  simp only [write_eq, getElem?_set]
  by_cases hq : i / 4 = q
  · have hi : i = q * 4 ∨ i = q * 4 + 1 ∨ i = q * 4 + 2 ∨ i = q * 4 + 3 := by omega
    rcases hi with rfl | rfl | rfl | rfl <;> simp [hq]
  · have h0 : i ≠ q * 4 := by omega
    have h1 : i ≠ q * 4 + 1 := by omega
    have h2 : i ≠ q * 4 + 2 := by omega
    have h3 : i ≠ q * 4 + 3 := by omega
    simp only [hq, h0, h1, h2, h3, if_false]

end Color

theorem Canvas.size_blank {c : Canvas} (hb : c.format.bytesPerPixel = 4) :
    c.blank.size = c.stride.toNat * c.height.toNat * 4 := by
  rw [blank, Array.size_replicate, byteCount, hb]
  rfl

/-- The bytes of a pixel, or of the padding after a row, end where the last row does at most. -/
theorem Canvas.pixel_end_le {c : Canvas} {x y : Nat} (hx : x < c.stride.toNat)
    (hy : y < c.height.toNat) :
    (y * c.stride.toNat + x) * 4 + 4 ≤ c.stride.toNat * c.height.toNat * 4 := by
  have hrow : (y + 1) * c.stride.toNat ≤ c.height.toNat * c.stride.toNat :=
    Nat.mul_le_mul_right _ hy
  rw [Nat.succ_mul] at hrow
  rw [Nat.mul_comm c.stride.toNat]
  omega

theorem Canvas.getElem?_blank {c : Canvas} (hb : c.format.bytesPerPixel = 4) {x y j : Nat}
    (hx : x < c.stride.toNat) (hy : y < c.height.toNat) (hj : j < 4) :
    c.blank[(y * c.stride.toNat + x) * 4 + j]? = some 0 := by
  have hi : (y * c.stride.toNat + x) * 4 + j < c.blank.size := by
    rw [size_blank hb]
    have hend := pixel_end_le hx hy
    omega
  rw [Array.getElem?_eq_getElem hi]
  simp [blank]

namespace Projection

variable (p : Projection) (c : Canvas)

/-- A byte of the pixel at a position, painted over what was there. -/
def painted (y x i : Nat) (old : Option UInt8) : Option UInt8 :=
  match p.pattern (UInt32.ofNat x) (UInt32.ofNat y) with
  | none => old
  | some color => old.map fun _ => color.byte c.format (i % 4)

theorem size_paintPixel (y x : Nat) (data : Bytes) :
    (p.paintPixel c y x data).size = data.size := by
  unfold paintPixel
  split
  next => rfl
  next color _ => exact color.size_write c.format data _

theorem getElem?_paintPixel (y x : Nat) (data : Bytes) (i : Nat) :
    (p.paintPixel c y x data)[i]? =
      if i / 4 = y * c.stride.toNat + x then p.painted c y x i data[i]? else data[i]? := by
  unfold paintPixel painted
  cases p.pattern (UInt32.ofNat x) (UInt32.ofNat y) with
  | none => exact (ite_self _).symm
  | some color => exact color.getElem?_write c.format data _ i

theorem paintRow_succ (y n : Nat) (data : Bytes) :
    p.paintRow c y (n + 1) data = p.paintPixel c y n (p.paintRow c y n data) := by
  simp only [paintRow, Nat.fold_succ]

theorem size_paintRow (y n : Nat) (data : Bytes) : (p.paintRow c y n data).size = data.size := by
  induction n with
  | zero => rfl
  | succ n ih => rw [paintRow_succ, size_paintPixel, ih]

theorem getElem?_paintRow (y n : Nat) (data : Bytes) (i : Nat) :
    (p.paintRow c y n data)[i]? =
      if y * c.stride.toNat ≤ i / 4 ∧ i / 4 < y * c.stride.toNat + n then
        p.painted c y (i / 4 - y * c.stride.toNat) i data[i]?
      else data[i]? := by
  induction n with
  | zero =>
    rw [if_neg (by omega)]
    rfl
  | succ n ih =>
    rw [paintRow_succ, getElem?_paintPixel, ih]
    generalize y * c.stride.toNat = start
    by_cases hq : i / 4 = start + n
    · have hx : i / 4 - start = n := by omega
      rw [if_pos hq, if_neg (by omega), if_pos (by omega), hx]
    · rw [if_neg hq]
      by_cases hin : start ≤ i / 4 ∧ i / 4 < start + n
      · rw [if_pos hin, if_pos (by omega)]
      · rw [if_neg hin, if_neg (by omega)]

/-- Draws the first `m` rows. -/
def paintRows (m : Nat) (data : Bytes) : Bytes :=
  m.fold (fun y _ data => p.paintRow c y c.width.toNat data) data

theorem paintRows_succ (m : Nat) (data : Bytes) :
    p.paintRows c (m + 1) data = p.paintRow c m c.width.toNat (p.paintRows c m data) := by
  simp only [paintRows, Nat.fold_succ]

theorem size_paintRows (m : Nat) (data : Bytes) : (p.paintRows c m data).size = data.size := by
  induction m with
  | zero => rfl
  | succ m ih => rw [paintRows_succ, size_paintRow, ih]

theorem size_paint (data : Bytes) : (p.paint c data).size = data.size :=
  p.size_paintRows c c.height.toNat data

variable {c}

/-- Where a row is drawn, in terms of row and column. -/
theorem drawn_iff (hw : c.width.toNat ≤ c.stride.toNat) (m q : Nat) :
    m * c.stride.toNat ≤ q ∧ q < m * c.stride.toNat + c.width.toNat ↔
      q / c.stride.toNat = m ∧ q % c.stride.toNat < c.width.toNat := by
  generalize c.stride.toNat = t at *
  have hdiv := Nat.div_add_mod q t
  constructor
  · rintro ⟨hl, hu⟩
    have hm : q / t = m := Nat.div_eq_of_lt_le hl (by rw [Nat.succ_mul]; omega)
    rw [hm, Nat.mul_comm] at hdiv
    exact ⟨hm, by omega⟩
  · rintro ⟨rfl, hx⟩
    rw [Nat.mul_comm] at hdiv
    omega

theorem getElem?_paintRows (hw : c.width.toNat ≤ c.stride.toNat) (m : Nat) (data : Bytes)
    (i : Nat) :
    (p.paintRows c m data)[i]? =
      if i / 4 / c.stride.toNat < m ∧ i / 4 % c.stride.toNat < c.width.toNat then
        p.painted c (i / 4 / c.stride.toNat) (i / 4 % c.stride.toNat) i data[i]?
      else data[i]? := by
  induction m with
  | zero =>
    rw [if_neg fun h => absurd h.1 (Nat.not_lt_zero _)]
    rfl
  | succ m ih =>
    rw [paintRows_succ, getElem?_paintRow, ih]
    simp only [drawn_iff hw]
    -- the new row is not among the others, so that no pixel is drawn twice
    have hx : i / 4 - m * c.stride.toNat = i / 4 - c.stride.toNat * m := by rw [Nat.mul_comm]
    by_cases hrow : i / 4 / c.stride.toNat = m ∧ i / 4 % c.stride.toNat < c.width.toNat
    · obtain ⟨hm, hcolumn⟩ := hrow
      have hq := Nat.div_add_mod (i / 4) c.stride.toNat
      rw [hm] at hq
      have hmod : i / 4 - m * c.stride.toNat = i / 4 % c.stride.toNat := by omega
      rw [if_pos ⟨hm, hcolumn⟩, if_neg (by omega), if_pos ⟨by omega, hcolumn⟩, hmod, hm]
    · rw [if_neg hrow]
      by_cases hin : i / 4 / c.stride.toNat < m ∧ i / 4 % c.stride.toNat < c.width.toNat
      · rw [if_pos hin, if_pos ⟨by omega, hin.2⟩]
      · rw [if_neg hin, if_neg fun h => ?_]
        by_cases hm : i / 4 / c.stride.toNat = m
        · exact hrow ⟨hm, h.2⟩
        · exact hin ⟨by omega, h.2⟩

/-- Painting changes the visible pixels, and nothing else. -/
theorem getElem?_paint (hw : c.width.toNat ≤ c.stride.toNat) (data : Bytes) (i : Nat) :
    (p.paint c data)[i]? =
      if i / 4 / c.stride.toNat < c.height.toNat ∧ i / 4 % c.stride.toNat < c.width.toNat then
        p.painted c (i / 4 / c.stride.toNat) (i / 4 % c.stride.toNat) i data[i]?
      else data[i]? :=
  p.getElem?_paintRows hw c.height.toNat data i

variable {x y j : Nat}

theorem getElem?_paint_pixel (hw : c.width.toNat ≤ c.stride.toNat) (data : Bytes)
    (hx : x < c.width.toNat) (hy : y < c.height.toNat) (hj : j < 4) :
    (p.paint c data)[(y * c.stride.toNat + x) * 4 + j]? =
      match p.pattern (UInt32.ofNat x) (UInt32.ofNat y) with
      | none => data[(y * c.stride.toNat + x) * 4 + j]?
      | some color =>
        data[(y * c.stride.toNat + x) * 4 + j]?.map fun _ => color.byte c.format j := by
  have hq : ((y * c.stride.toNat + x) * 4 + j) / 4 = y * c.stride.toNat + x := by omega
  have hr : ((y * c.stride.toNat + x) * 4 + j) % 4 = j := by omega
  obtain ⟨hrow, hcolumn⟩ := (drawn_iff hw y (y * c.stride.toNat + x)).mp ⟨by omega, by omega⟩
  have hmod := Nat.div_add_mod (y * c.stride.toNat + x) c.stride.toNat
  rw [hrow, Nat.mul_comm] at hmod
  rw [getElem?_paint p hw, hq, hrow, if_pos ⟨hy, hcolumn⟩,
    show (y * c.stride.toNat + x) % c.stride.toNat = x by omega, painted, hr]

/-- The ends of the rows stay as they were. -/
theorem getElem?_paint_padding (hw : c.width.toNat ≤ c.stride.toNat) (data : Bytes)
    (hx : c.width.toNat ≤ x) (hs : x < c.stride.toNat) (hj : j < 4) :
    (p.paint c data)[(y * c.stride.toNat + x) * 4 + j]? =
      data[(y * c.stride.toNat + x) * 4 + j]? := by
  have hq : ((y * c.stride.toNat + x) * 4 + j) / 4 = y * c.stride.toNat + x := by omega
  have hmod : (y * c.stride.toNat + x) % c.stride.toNat = x := by
    rw [Nat.mul_comm, Nat.mul_add_mod, Nat.mod_eq_of_lt hs]
  rw [getElem?_paint p hw, hq, hmod, if_neg (by omega)]

theorem pixelAt_le {R : Type} (A : Arithmetic R) (position : R) (extent : UInt32) :
    pixelAt A position extent ≤ extent - 1 := by
  unfold pixelAt
  generalize A.toPixels (A.mul position (A.ofPixels extent)) = pixel
  show (if pixel ≤ extent - 1 then pixel else extent - 1) ≤ extent - 1
  split
  next h => exact h
  next => exact UInt32.le_refl _

/-- A point is found by its offsets from the corner of the layer stack. -/
theorem layerPoint?_offsets {R : Type} (A : Arithmetic R) {p : Projection} {x y lx ly : UInt32}
    (h : p.layerPoint? A x y = some (lx, ly)) :
    lx - p.layerStack.x ≤ p.layerStack.width - 1 ∧
      ly - p.layerStack.y ≤ p.layerStack.height - 1 := by
  unfold layerPoint? at h
  split at h
  next => cases h
  next =>
    obtain ⟨hx, hy⟩ := Prod.mk.inj (Option.some.inj h)
    rw [← hx, ← hy, UInt32.add_comm, UInt32.add_sub_cancel, UInt32.add_comm, UInt32.add_sub_cancel]
    exact ⟨pixelAt_le A _ _, pixelAt_le A _ _⟩

end Projection

/-- Up to this extent the arithmetic of the pattern stays within a word. -/
def patternLimit : Nat := 16843010

theorem one_le_of_ne_zero {extent : UInt32} (hz : extent ≠ 0) : 1 ≤ extent := by
  rw [UInt32.le_iff_toNat_le, UInt32.toNat_one]
  exact Nat.pos_of_ne_zero fun h => hz (UInt32.toNat_inj.mp h)

theorem toNat_sub_one {extent : UInt32} (hz : extent ≠ 0) :
    (extent - 1).toNat = extent.toNat - 1 := by
  rw [UInt32.toNat_sub_of_le _ _ (one_le_of_ne_zero hz), UInt32.toNat_one]

theorem patternScale_toNat {extent : UInt32} (hz : extent ≠ 0) :
    (patternScale extent).toNat = max (extent.toNat - 1) 1 := by
  unfold patternScale
  split
  next h =>
    have h1 : extent.toNat ≤ 1 := UInt32.le_iff_toNat_le.mp h
    simp only [UInt32.toNat_one]
    omega
  next h =>
    have h1 : ¬extent.toNat ≤ 1 := fun hle => h (UInt32.le_iff_toNat_le.mpr hle)
    rw [toNat_sub_one hz]
    omega

section Shade

variable {offset extent : UInt32} (ho : offset ≤ extent - 1) (hz : extent ≠ 0)

include ho hz

theorem patternLevel_le : offset.toNat * 255 / max (extent.toNat - 1) 1 ≤ 255 := by
  have hoff := toNat_sub_one hz ▸ UInt32.le_iff_toNat_le.mp ho
  apply Nat.div_le_of_le_mul
  exact Nat.mul_le_mul_right 255 (Nat.le_trans hoff (Nat.le_max_left _ _))

variable (hl : extent.toNat ≤ patternLimit)

include hl

theorem patternProduct_lt : offset.toNat * 255 < 2 ^ 32 := by
  have hoff := toNat_sub_one hz ▸ UInt32.le_iff_toNat_le.mp ho
  unfold patternLimit at hl
  omega

/-- The level of a colour before it is made a byte. -/
theorem patternLevel_toNat : (offset * 255 / patternScale extent).toNat =
    offset.toNat * 255 / max (extent.toNat - 1) 1 := by
  have hproduct : (offset * 255).toNat = offset.toNat * 255 := by
    rw [UInt32.toNat_mul]
    exact Nat.mod_eq_of_lt (patternProduct_lt ho hz hl)
  rw [UInt32.toNat_div, hproduct, patternScale_toNat hz]

theorem patternShade_exact :
    (patternShade offset extent).toNat = offset.toNat * 255 / max (extent.toNat - 1) 1 := by
  unfold patternShade
  rw [UInt32.toNat_toUInt8, patternLevel_toNat ho hz hl]
  exact Nat.mod_eq_of_lt (Nat.lt_succ_of_le (patternLevel_le ho hz))

end Shade

/-- A visible pixel shows a colour of the pattern, computed without overflow. -/
theorem Projection.pattern_exact {p : Projection} (hz : p.layerStack.isEmpty = false)
    (hw : p.layerStack.width.toNat ≤ patternLimit) (hh : p.layerStack.height.toNat ≤ patternLimit)
    {x y : UInt32} (hv : p.visible.contains x y = true) :
    ∃ lx ly color, p.layerPixel? x y = some (lx, ly) ∧ p.pattern x y = some color ∧
      color.red.toNat =
        (lx - p.layerStack.x).toNat * 255 / max (p.layerStack.width.toNat - 1) 1 ∧
      color.green.toNat =
        (ly - p.layerStack.y).toNat * 255 / max (p.layerStack.height.toNat - 1) 1 ∧
      color.blue = 0 ∧ color.alpha = 255 := by
  obtain ⟨⟨lx, ly⟩, hp⟩ : ∃ point, p.layerPixel? x y = some point := by
    simp [layerPixel?, layerPoint?, hz, hv]
  obtain ⟨hx, hy⟩ := layerPoint?_offsets .single hp
  simp only [Rect.isEmpty, Bool.or_eq_false_iff, decide_eq_false_iff_not] at hz
  refine ⟨lx, ly, _, hp, by rw [pattern, hp], ?_, ?_, rfl, rfl⟩
  · exact patternShade_exact hx hz.1 hw
  · exact patternShade_exact hy hz.2 hh

end ScreenCapture
