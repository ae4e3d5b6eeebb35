import ScreenCapture.Proofs.Keeping
import ScreenCapture.Proofs.Painting

namespace ScreenCapture

/-- The bytes of a frame can be counted in a word, and the pattern can be computed in words. -/
structure OutputParams.Fits (p : OutputParams) : Prop where
  size : p.frameSize < 2 ^ 32
  realWidth : p.realWidth.toNat ≤ patternLimit
  realHeight : p.realHeight.toNat ≤ patternLimit

/-- The frame of an output that is due after so many others. -/
structure Frame.Delivers (frame : Frame) (p : OutputParams) (consumed : Nat) : Prop where
  number : frame.number = consumed
  width : frame.width = p.desiredWidth
  height : frame.height = p.desiredHeight
  stride : IsLeast {n | 32 ∣ n ∧ p.desiredWidth.toNat ≤ n} frame.stride.toNat
  format : frame.format = .rgba8888
  bytesPerPixel : frame.bytesPerPixel = 4
  size : frame.size.toNat = frame.stride.toNat * frame.height.toNat * 4
  length : frame.data.get.size = frame.size.toNat
  pixel : ∀ x y : UInt32, x < frame.width → y < frame.height →
    ∃ lx ly color, p.projection.layerPixel? x y = some (lx, ly) ∧
      p.projection.pattern x y = some color ∧
      color.red.toNat = lx.toNat * 255 / max (p.realWidth.toNat - 1) 1 ∧
      color.green.toNat = ly.toNat * 255 / max (p.realHeight.toNat - 1) 1 ∧
      color.blue = 0 ∧ color.alpha = 255 ∧
      ∀ j < 4, frame.data.get[(y.toNat * frame.stride.toNat + x.toNat) * 4 + j]? =
        [color.red, color.green, color.blue, color.alpha][j]?
  padding : ∀ x y j, frame.width.toNat ≤ x → x < frame.stride.toNat → y < frame.height.toNat →
    j < 4 → frame.data.get[(y * frame.stride.toNat + x) * 4 + j]? = some 0

namespace Site

variable {s : Site}

theorem canvas_width_le (hz : s.params.hasZeroSide = false) (h : s.params.frameSize < 2 ^ 32) :
    s.canvas.width.toNat ≤ s.canvas.stride.toNat := by
  rw [canvas_stride hz h]
  exact s.params.alignedWidth_isLeast.1.2

/-- All pixels of an output are visible, and show the pattern. -/
theorem picture_pixel (h : s.params.Fits) (hz : s.params.hasZeroSide = false)
    {x y : UInt32} (hx : x < s.params.desiredWidth) (hy : y < s.params.desiredHeight) :
    ∃ lx ly color, s.params.projection.layerPixel? x y = some (lx, ly) ∧
      s.params.projection.pattern x y = some color ∧
      color.red.toNat = lx.toNat * 255 / max (s.params.realWidth.toNat - 1) 1 ∧
      color.green.toNat = ly.toNat * 255 / max (s.params.realHeight.toNat - 1) 1 ∧
      color.blue = 0 ∧ color.alpha = 255 ∧
      ∀ j < 4, s.picture.get[(y.toNat * s.canvas.stride.toNat + x.toNat) * 4 + j]? =
        [color.red, color.green, color.blue, color.alpha][j]? := by
  obtain ⟨_, _, hw, hh⟩ := OutputParams.sides_of_hasZeroSide hz
  have hlayer : s.params.projection.layerStack.isEmpty = false := by
    simp [OutputParams.projection, Rect.ofSize, Rect.isEmpty, hw, hh]
  have hvisible : s.params.projection.visible.contains x y = true := by
    simp [OutputParams.projection, Rect.ofSize, Rect.contains, hx, hy]
  obtain ⟨lx, ly, color, hpoint, hcolor, hred, hgreen, hblue, halpha⟩ :=
    Projection.pattern_exact hlayer h.realWidth h.realHeight hvisible
  refine ⟨lx, ly, color, hpoint, hcolor, ?_, ?_, hblue, halpha, ?_⟩
  · simpa [OutputParams.projection, Rect.ofSize] using hred
  · simpa [OutputParams.projection, Rect.ofSize] using hgreen
  · intro j hj
    have hx' : x.toNat < s.canvas.width.toNat := UInt32.lt_iff_toNat_lt.mp hx
    have hy' : y.toNat < s.canvas.height.toNat := UInt32.lt_iff_toNat_lt.mp hy
    have hle := canvas_width_le hz h.size
    have hpaint := s.params.projection.getElem?_paint_pixel hle s.canvas.blank hx' hy' hj
    rw [UInt32.ofNat_toNat, UInt32.ofNat_toNat, hcolor,
      Canvas.getElem?_blank rfl (Nat.lt_of_lt_of_le hx' hle) hy' hj] at hpaint
    refine hpaint.trans ?_
    have hcases : j = 0 ∨ j = 1 ∨ j = 2 ∨ j = 3 := by omega
    rcases hcases with rfl | rfl | rfl | rfl <;> rfl

theorem picture_padding (h : s.params.Fits) (hz : s.params.hasZeroSide = false)
    {x y j : Nat} (hx : s.params.desiredWidth.toNat ≤ x) (hs : x < s.canvas.stride.toNat)
    (hy : y < s.params.desiredHeight.toNat) (hj : j < 4) :
    s.picture.get[(y * s.canvas.stride.toNat + x) * 4 + j]? = some 0 := by
  have hpaint := s.params.projection.getElem?_paint_padding (y := y) (canvas_width_le hz h.size)
    s.canvas.blank hx hs hj
  exact hpaint.trans (Canvas.getElem?_blank rfl hs hy hj)

theorem capture_delivers (h : s.params.Fits) (hz : s.params.hasZeroSide = false) (n : Nat) :
    (s.capture n (UInt32.ofNat s.params.frameSize)).Delivers s.params n := by
  have hstride := canvas_stride hz h.size
  have hsize : (UInt32.ofNat s.params.frameSize).toNat =
      s.canvas.stride.toNat * s.params.desiredHeight.toNat * 4 := by
    rw [hstride, UInt32.toNat_ofNat']
    exact Nat.mod_eq_of_lt h.size
  have hlength : s.picture.get.size = s.canvas.stride.toNat * s.params.desiredHeight.toNat * 4 :=
    (s.params.projection.size_paint s.canvas s.canvas.blank).trans (Canvas.size_blank rfl)
  exact {
    number := rfl
    width := rfl
    height := rfl
    stride := hstride.symm ▸ s.params.alignedWidth_isLeast
    format := rfl
    bytesPerPixel := rfl
    size := hsize
    length := hlength.trans hsize.symm
    pixel := fun x y hx hy => picture_pixel h hz hx hy
    padding := fun x y j hx hs hy hj => picture_padding h hz hx hs hy hj }

end Site

theorem CaptureAction.Keeps.delivers {site : Site} {s : Controller × Compositor} {consumed : Nat}
    (h : Keeps site s consumed) (hfits : site.params.Fits)
    (hz : site.params.hasZeroSide = false) {frame : Frame}
    (hframe : (s.1.consume s.2).1 = .ok frame) : frame.Delivers site.params consumed := by
  rw [h.captures hz hfits.size hframe]
  exact Site.capture_delivers hfits hz consumed

namespace Controller

/-- A capture counts what it does. After its settings were applied, and until it applies them again
or is released, it delivers every frame of the output, one by one, in their order: a wait that lasts
as long as it takes ends with a frame, and only an injected failure keeps it from being consumed. -/
theorem capture_lossless (panels : Registry Int32 Panel) (interval : Nat) (id : Int32)
    (before : List CaptureAction) :
    let (answers, k, c) := CaptureAction.run before (.new id, .ofPanels panels interval)
    k.stats =
        { framesConsumed := answers.countP Answer.isFrame
          lockFailures := answers.countP Answer.isLockFailure
          reconfigurations := answers.countP Answer.isReconfiguration } ∧
      ((k.apply c).1 = .ok () → k.params.Fits →
        ∀ between : List CaptureAction, (∀ a ∈ between, a.replaces = false) →
          let (since, k', d) := CaptureAction.run between (k.apply c).2
          (k'.waitForFrame d).1 = .ok true ∧
            (k'.state = .frameReady → d.armed .lock = none →
              ∃ frame, (k'.consume d).1 = .ok frame) ∧
            ∀ frame, (k'.consume d).1 = .ok frame →
              frame.Delivers k.params (since.countP Answer.isFrame)) := by
  have h0 := new_tracks id (Compositor.ofPanels_hosts panels interval)
  obtain ⟨e, h⟩ := CaptureAction.tracks_run before (s := (.new id, .ofPanels panels interval)) h0
  refine ⟨?_, ?_⟩
  · have hstats := CaptureAction.stats_run before (s := (.new id, .ofPanels panels interval)) h0
    rw [CaptureStats.foldl_count] at hstats
    simpa [new] using hstats
  · intro hok hfits between hkeep
    obtain ⟨hz, hkeeps⟩ := h.apply_ok hok
    have hrun := hkeeps.run between hz hfits.size hkeep
    rw [Nat.zero_add] at hrun
    exact ⟨hrun.waits, hrun.consumes hz hfits.size, fun _ hframe => hrun.delivers hfits hz hframe⟩

/-- The second frame of an output that is narrower than its rows. -/
theorem capture_lossless_second :
    let (_, k, c) := CaptureAction.run
      [.operate (.setDesired (.ofGeometry 33 2 .rotation90)),
        .operate (.setReal (.ofGeometry 4 3 .rotation0))] (.new 0, .standard)
    let (_, k', d) := CaptureAction.run
      [.operate .wait, .operate .consume, .operate .wait] (k.apply c).2
    ∃ frame, (k'.consume d).1 = .ok frame ∧ frame.Delivers ⟨33, 2, .rotation90, 4, 3⟩ 1 := by
  have hfits : OutputParams.Fits ⟨33, 2, .rotation90, 4, 3⟩ := ⟨by decide, by decide, by decide⟩
  have hkeep : ∀ a ∈ [CaptureAction.operate .wait, .operate .consume, .operate .wait],
      a.replaces = false := by
    simp [CaptureAction.replaces, Operation.replaces]
  refine ⟨_, rfl, ?_⟩
  have h := (capture_lossless Compositor.standardPanels Compositor.standardInterval 0
    [.operate (.setDesired (.ofGeometry 33 2 .rotation90)),
      .operate (.setReal (.ofGeometry 4 3 .rotation0))]).2 rfl hfits _ hkeep
  exact h.2.2 _ rfl
end Controller

end ScreenCapture
