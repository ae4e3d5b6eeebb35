import ScreenCapture.Proofs.Containment

namespace ScreenCapture

def patternShadeRanged (offset extent : UInt32) : Ranged UInt8 := do
  let scaled ← Ranged.mul offset 255
  Ranged.narrow (scaled / patternScale extent)

theorem patternShadeRanged_eq {offset extent : UInt32} (ho : offset ≤ extent - 1)
    (hz : extent ≠ 0) (hl : extent.toNat ≤ patternLimit) :
    patternShadeRanged offset extent = .ok (patternShade offset extent) := by
  have hlevel : (offset * 255 / patternScale extent).toNat < 2 ^ 8 := by
    rw [patternLevel_toNat ho hz hl]
    exact Nat.lt_succ_of_le (patternLevel_le ho hz)
  rw [patternShadeRanged, Ranged.mul_of_lt (patternProduct_lt ho hz hl), Ranged.ok_bind,
    Ranged.narrow_of_lt hlevel]
  rfl

/-- Writes the four bytes of a colour, all of them inside the data. -/
def Color.writeRanged (color : Color) (format : FormatCode) (data : Bytes) (offset : Nat) :
    Ranged Bytes :=
  if offset + 4 ≤ data.size then return color.write format data offset else .error .outside

/-- Where the bytes of a pixel begin. -/
def Canvas.place (c : Canvas) (x y : UInt32) : Nat := (y.toNat * c.stride.toNat + x.toNat) * 4

/-- A buffer holds the rows of a canvas, and a row its pixels. -/
structure Canvas.Holds (c : Canvas) (data : Bytes) : Prop where
  fits : c.width ≤ c.stride
  size : data.size = c.stride.toNat * c.height.toNat * 4

theorem Canvas.Holds.place_le {c : Canvas} {data : Bytes} (h : c.Holds data) {x y : Nat}
    (hx : x < c.width.toNat) (hy : y < c.height.toNat) :
    (y * c.stride.toNat + x) * 4 + 4 ≤ data.size := by
  rw [h.size]
  exact pixel_end_le (Nat.lt_of_lt_of_le hx (UInt32.le_iff_toNat_le.mp h.fits)) hy

namespace Projection

/-- The colour of a pixel, or where its computation leaves the range of a word or of a byte. -/
def patternRanged (p : Projection) (x y : UInt32) : Ranged (Option Color) := do
  match ← p.layerPointRanged .single x y with
  | none => return none
  | some (lx, ly) =>
    let right ← Ranged.sub lx p.layerStack.x
    let down ← Ranged.sub ly p.layerStack.y
    let red ← patternShadeRanged right p.layerStack.width
    let green ← patternShadeRanged down p.layerStack.height
    return some ⟨red, green, 0, 255⟩

def paintPixelRanged (p : Projection) (c : Canvas) (y x : Nat) (data : Bytes) : Ranged Bytes := do
  match ← p.patternRanged (UInt32.ofNat x) (UInt32.ofNat y) with
  | none => return data
  | some color => color.writeRanged c.format data ((y * c.stride.toNat + x) * 4)

def paintRowRanged (p : Projection) (c : Canvas) (y n : Nat) (data : Bytes) : Ranged Bytes :=
  (List.range n).foldlM (fun data x => p.paintPixelRanged c y x data) data

/-- Draws the test pattern, as far as nothing is computed or written out of its range. -/
def paintRanged (p : Projection) (c : Canvas) (data : Bytes) : Ranged Bytes :=
  (List.range c.height.toNat).foldlM (fun data y => p.paintRowRanged c y c.width.toNat data) data

/-- The layer stack ends with the coordinates, and the pattern on it stays within a word. -/
structure Paintable (p : Projection) : Prop where
  width : p.layerStack.width.toNat ≤ patternLimit
  height : p.layerStack.height.toNat ≤ patternLimit
  right : p.layerStack.x.toNat + p.layerStack.width.toNat ≤ 2 ^ 32
  bottom : p.layerStack.y.toNat + p.layerStack.height.toNat ≤ 2 ^ 32

variable {p : Projection} {c : Canvas} {data : Bytes}

namespace Paintable

variable (h : p.Paintable)

include h

theorem patternRanged_eq (x y : UInt32) : p.patternRanged x y = .ok (p.pattern x y) := by
  unfold patternRanged pattern layerPixel?
  rw [layerPointRanged_eq .single h.right h.bottom, Ranged.ok_bind]
  cases hp : p.layerPoint? .single x y with
  | none => rfl
  | some point =>
    obtain ⟨lx, ly⟩ := point
    have hz := ((layerPoint?_isSome .single x y).mp (by rw [hp]; rfl)).1
    obtain ⟨hw, hh⟩ := Rect.isEmpty_eq_false.mp hz
    obtain ⟨⟨hlx, _⟩, hly, _⟩ :=
      (Rect.contains_iff _ _ _).mp (contains_layerPoint? .single h.right h.bottom hp)
    obtain ⟨hox, hoy⟩ := layerPoint?_offsets .single hp
    simp only [Ranged.sub_of_le (UInt32.le_iff_toNat_le.mpr hlx),
      Ranged.sub_of_le (UInt32.le_iff_toNat_le.mpr hly), Ranged.ok_bind,
      patternShadeRanged_eq hox hw h.width, patternShadeRanged_eq hoy hh h.height,
      Ranged.pure_eq_ok]

theorem paintPixelRanged_eq {x y : Nat} (hroom : (y * c.stride.toNat + x) * 4 + 4 ≤ data.size) :
    p.paintPixelRanged c y x data = .ok (p.paintPixel c y x data) := by
  unfold paintPixelRanged paintPixel
  rw [h.patternRanged_eq, Ranged.ok_bind]
  cases p.pattern (UInt32.ofNat x) (UInt32.ofNat y) with
  | none => rfl
  | some color => exact if_pos hroom

theorem paintRowRanged_eq {y : Nat} (hy : y < c.height.toNat) (hc : c.Holds data) :
    p.paintRowRanged c y c.width.toNat data = .ok (p.paintRow c y c.width.toNat data) := by
  refine (Ranged.foldlM_range_of_ok (I := c.Holds) (fun x b hb => ?_) (fun x hx b hb => ?_) hc).1
  · exact ⟨hb.fits, (p.size_paintPixel c y x b).trans hb.size⟩
  · exact h.paintPixelRanged_eq (hb.place_le hx hy)

/-- Painting neither leaves the buffer nor the range of a word or of a byte. -/
theorem paintRanged_eq (hc : c.Holds data) : p.paintRanged c data = .ok (p.paint c data) := by
  refine (Ranged.foldlM_range_of_ok (I := c.Holds) (fun y b hb => ?_) (fun y hy b hb => ?_) hc).1
  · exact ⟨hb.fits, (p.size_paintRow c y _ b).trans hb.size⟩
  · exact h.paintRowRanged_eq hy hb

end Paintable

/-- A pixel of the canvas where something of the layer stack is seen. -/
def Shows (p : Projection) (c : Canvas) (x y : UInt32) : Prop :=
  x < c.width ∧ y < c.height ∧ p.layerStack.isEmpty = false ∧ p.visible.contains x y = true

instance (p : Projection) (c : Canvas) (x y : UInt32) : Decidable (p.Shows c x y) :=
  inferInstanceAs (Decidable (_ ∧ _))

theorem visible_of_pattern {x y : UInt32} {color : Color} (h : p.pattern x y = some color) :
    p.layerStack.isEmpty = false ∧ p.visible.contains x y = true := by
  rw [← layerPoint?_isSome .single]
  unfold pattern layerPixel? at h
  split at h
  next => cases h
  next hp =>
    rw [hp]
    rfl

/-- The four bytes of a pixel that is seen are those of its colour. -/
theorem extract_paint (hc : c.Holds data) {x y : UInt32} (hx : x < c.width) (hy : y < c.height)
    {color : Color} (hcolor : p.pattern x y = some color) :
    (p.paint c data).extract (c.place x y) (c.place x y + 4) =
      #[color.byte c.format 0, color.byte c.format 1, color.byte c.format 2,
        color.byte c.format 3] := by
  have hw := UInt32.le_iff_toNat_le.mp hc.fits
  have hx' := UInt32.lt_iff_toNat_lt.mp hx
  have hy' := UInt32.lt_iff_toNat_lt.mp hy
  have hplace : c.place x y + 4 ≤ data.size := hc.place_le hx' hy'
  have hbyte {j : Nat} (hj : j < 4) :
      (p.paint c data)[c.place x y + j]? = some (color.byte c.format j) := by
    have hpixel := p.getElem?_paint_pixel hw data hx' hy' hj
    rw [UInt32.ofNat_toNat, UInt32.ofNat_toNat, hcolor] at hpixel
    have hold : data[c.place x y + j]? = some data[c.place x y + j] :=
      Array.getElem?_eq_getElem (by omega)
    exact hpixel.trans (congrArg (Option.map _) hold)
  refine Array.ext_getElem? fun j => ?_
  rw [Array.getElem?_extract, p.size_paint, Nat.min_eq_left hplace, Nat.add_sub_cancel_left]
  rcases (by omega : j = 0 ∨ j = 1 ∨ j = 2 ∨ j = 3 ∨ 4 ≤ j) with rfl | rfl | rfl | rfl | hj
  · exact hbyte (by decide)
  · exact hbyte (by decide)
  · exact hbyte (by decide)
  · exact hbyte (by decide)
  · rw [if_neg (Nat.not_lt.mpr hj), Array.getElem?_eq_none hj]

theorem exists_shade (h : p.Paintable) {x y : UInt32} (hz : p.layerStack.isEmpty = false)
    (hv : p.visible.contains x y = true) :
    ∃ lx ly color, p.layerPixel? x y = some (lx, ly) ∧ p.pattern x y = some color ∧
      p.layerStack.contains lx ly = true ∧
      color.red.toNat = (lx.toNat - p.layerStack.x.toNat) * 255 /
        max (p.layerStack.width.toNat - 1) 1 ∧
      color.green.toNat = (ly.toNat - p.layerStack.y.toNat) * 255 /
        max (p.layerStack.height.toNat - 1) 1 ∧
      color.blue = 0 ∧ color.alpha = 255 := by
  obtain ⟨lx, ly, color, hp, hcolor, hred, hgreen, hrest⟩ := pattern_exact hz h.width h.height hv
  have hinside := contains_layerPoint? .single h.right h.bottom hp
  obtain ⟨⟨hlx, _⟩, hly, _⟩ := (Rect.contains_iff _ _ _).mp hinside
  rw [UInt32.toNat_sub_of_le _ _ (UInt32.le_iff_toNat_le.mpr hlx)] at hred
  rw [UInt32.toNat_sub_of_le _ _ (UInt32.le_iff_toNat_le.mpr hly)] at hgreen
  exact ⟨lx, ly, color, hp, hcolor, hinside, hred, hgreen, hrest⟩

/-- A byte that belongs to no pixel that is seen stays as it was. -/
theorem getElem?_paint_unseen (hc : c.Holds data) {i : Nat}
    (hi : ∀ x y, p.Shows c x y → i < c.place x y ∨ c.place x y + 4 ≤ i) :
    (p.paint c data)[i]? = data[i]? := by
  rw [getElem?_paint p (UInt32.le_iff_toNat_le.mp hc.fits)]
  split
  next h =>
    obtain ⟨hy, hx⟩ := h
    unfold painted
    split
    next => rfl
    next color hcolor =>
      have hplace := Nat.div_add_mod (i / 4) c.stride.toNat
      generalize i / 4 / c.stride.toNat = y at *
      generalize i / 4 % c.stride.toNat = x at *
      have hx' : (UInt32.ofNat x).toNat = x :=
        UInt32.toNat_ofNat_of_lt' (Nat.lt_trans hx c.width.toNat_lt)
      have hy' : (UInt32.ofNat y).toNat = y :=
        UInt32.toNat_ofNat_of_lt' (Nat.lt_trans hy c.height.toNat_lt)
      have hshows : p.Shows c (UInt32.ofNat x) (UInt32.ofNat y) :=
        ⟨UInt32.lt_iff_toNat_lt.mpr (hx'.symm ▸ hx), UInt32.lt_iff_toNat_lt.mpr (hy'.symm ▸ hy),
          visible_of_pattern hcolor⟩
      have hout := hi _ _ hshows
      rw [Canvas.place, hx', hy', Nat.mul_comm y] at hout
      omega
  next => rfl

/-- Painting writes the colours of the pixels where the layer stack is seen, and nothing else. -/
theorem paint_exact (p : Projection) (c : Canvas) (data : Bytes)
    (hw : p.layerStack.width.toNat ≤ patternLimit) (hh : p.layerStack.height.toNat ≤ patternLimit)
    (hx : p.layerStack.x.toNat + p.layerStack.width.toNat ≤ 2 ^ 32)
    (hy : p.layerStack.y.toNat + p.layerStack.height.toNat ≤ 2 ^ 32)
    (hfits : c.width ≤ c.stride) (hsize : data.size = c.stride.toNat * c.height.toNat * 4) :
    p.paintRanged c data = .ok (p.paint c data) ∧
      (p.paint c data).size = data.size ∧
      (∀ x y, p.Shows c x y → ∃ lx ly, ∃ r g : UInt8, p.layerPixel? x y = some (lx, ly) ∧
        p.layerStack.contains lx ly = true ∧
        r.toNat = (lx.toNat - p.layerStack.x.toNat) * 255 /
          max (p.layerStack.width.toNat - 1) 1 ∧
        g.toNat = (ly.toNat - p.layerStack.y.toNat) * 255 /
          max (p.layerStack.height.toNat - 1) 1 ∧
        (p.paint c data).extract (c.place x y) (c.place x y + 4) =
          if c.format = FormatCode.bgra8888 then #[0, g, r, 255] else #[r, g, 0, 255]) ∧
      ∀ i, (∀ x y, p.Shows c x y → i < c.place x y ∨ c.place x y + 4 ≤ i) →
        (p.paint c data)[i]? = data[i]? := by
  have h : p.Paintable := ⟨hw, hh, hx, hy⟩
  have hc : c.Holds data := ⟨hfits, hsize⟩
  refine ⟨h.paintRanged_eq hc, p.size_paint c data, fun x y hshows => ?_,
    fun i => getElem?_paint_unseen hc⟩
  obtain ⟨hxw, hyh, hz, hv⟩ := hshows
  obtain ⟨lx, ly, color, hp, hcolor, hinside, hred, hgreen, hblue, halpha⟩ := exists_shade h hz hv
  refine ⟨lx, ly, color.red, color.green, hp, hinside, hred, hgreen, ?_⟩
  rw [extract_paint hc hxw hyh hcolor]
  simp only [Color.byte, hblue, halpha]
  split <;> rfl

/-- A layer stack of one column, in a rectangle of which one pixel is on the canvas. -/
theorem paint_exact_column :
    let p : Projection := ⟨.rotation180, ⟨7, 9, 1, 256⟩, ⟨1, 0, 5, 5⟩⟩
    let c : Canvas := ⟨2, 1, 3, FormatCode.bgra8888⟩
    let data : Bytes := Array.replicate 12 7
    p.Paintable ∧ c.Holds data ∧ p.paintRanged c data = .ok (p.paint c data) ∧
      (∃ ly : UInt32, ∃ g : UInt8, g.toNat = ly.toNat - 9 ∧
        (p.paint c data).extract 4 8 = #[0, g, 0, 255]) ∧
      ∀ i, i < 4 ∨ 8 ≤ i → (p.paint c data)[i]? = data[i]? := by
  intro p c data
  have h : p.Paintable := ⟨by decide, by decide, by decide, by decide⟩
  have hc : c.Holds data := ⟨by decide, rfl⟩
  obtain ⟨hranged, _, hseen, hunseen⟩ :=
    paint_exact p c data h.width h.height h.right h.bottom hc.fits hc.size
  refine ⟨h, hc, hranged, ?_, fun i hi => hunseen i fun x y hshows => ?_⟩
  · obtain ⟨lx, ly, r, g, _, hinside, hr, hg, hbytes⟩ := hseen 1 0 (by decide)
    -- the only column is both the first and the last
    obtain ⟨⟨hleft, hright⟩, -⟩ := (Rect.contains_iff _ _ _).mp hinside
    have hcolumn : lx.toNat - p.layerStack.x.toNat = 0 :=
      Nat.sub_eq_zero_of_le (Nat.le_of_lt_succ hright)
    have hnone : r.toNat = 0 := by rw [hr, hcolumn, Nat.zero_mul, Nat.zero_div]
    have hred : r = 0 := UInt8.toNat_inj.mp hnone
    refine ⟨ly, g, hg.trans (Nat.mul_div_cancel _ (by decide)), ?_⟩
    rw [hred] at hbytes
    exact hbytes
  · obtain ⟨hx, hy, -, hv⟩ := hshows
    obtain ⟨⟨hleft, -⟩, -⟩ := (Rect.contains_iff _ _ _).mp hv
    have hx1 : x.toNat < 2 := UInt32.lt_iff_toNat_lt.mp hx
    have hy1 : y.toNat < 1 := UInt32.lt_iff_toNat_lt.mp hy
    have hx0 : 1 ≤ x.toNat := hleft
    have hplace : c.place x y = 4 := by
      rw [Canvas.place, show y.toNat = 0 by omega, show x.toNat = 1 by omega]
      rfl
    rw [hplace]
    exact hi

end Projection

end ScreenCapture
