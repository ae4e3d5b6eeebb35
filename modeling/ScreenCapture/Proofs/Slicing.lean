import Mathlib.Data.Nat.Basic
import Mathlib.Order.Basic
import ScreenCapture.Frame.Basic
import ScreenCapture.Proofs.Ranges

namespace ScreenCapture

/-- Data cut into pieces of one length, of which the last may be shorter. -/
def pieces (length : Nat) (data : Bytes) : List Bytes :=
  if 0 < length ∧ 0 < data.size then
    data.extract 0 length :: pieces length (data.extract length data.size)
  else []
termination_by data.size
decreasing_by
  simp only [Array.size_extract]
  omega

namespace Frame

/-- The rows as the first pieces of the data, each shortened to its pixels. -/
def rowsRanged (f : Frame) : Ranged (List Bytes) :=
  let rowBytes := f.width.toNat * f.bytesPerPixel.toNat
  let count := if f.rowPitch = 0 then 0 else f.height.toNat
  ((pieces (max f.rowPitch 1) f.data.get).take count).mapM fun piece =>
    Ranged.slice piece 0 (min rowBytes piece.size)

/-- Shortening what is cut off is cutting off less. -/
theorem shorten_piece (pitch length start : Nat) (data : Bytes) :
    ((data.extract start data.size).extract 0 pitch).extract 0
        (min length ((data.extract start data.size).extract 0 pitch).size) =
      data.extract start (min (start + min length pitch) data.size) := by
  simp only [Array.extract_extract, Array.size_extract, Nat.add_zero]
  rw [Array.extract_eq_extract_right]
  omega

theorem cutRows_eq_pieces {pitch : Nat} (hpitch : 0 < pitch) (length count start : Nat)
    (data : Bytes) :
    cutRows pitch length count start data =
      ((pieces pitch (data.extract start data.size)).take count).map fun piece =>
        piece.extract 0 (min length piece.size) := by
  induction count generalizing start with
  | zero => rfl
  | succ count ih =>
    have hsize : (data.extract start data.size).size = data.size - start := by
      rw [Array.size_extract, Nat.min_self]
    rw [cutRows, pieces, hsize]
    by_cases hstart : start < data.size
    · have hrest : (data.extract start data.size).extract pitch (data.size - start) =
          data.extract (start + pitch) data.size := by
        rw [Array.extract_extract, Array.extract_eq_extract_right]
        omega
      rw [if_pos hstart, if_pos ⟨hpitch, by omega⟩, hrest, ih, List.take_succ_cons, List.map_cons,
        shorten_piece]
    · rw [if_neg hstart, if_neg (by omega), List.take_nil, List.map_nil]

/-- No row reaches past the piece it is cut from. -/
theorem rowsRanged_eq (f : Frame) : f.rowsRanged = .ok f.rows := by
  have hslice (l : List Bytes) (n : Nat) :
      (l.mapM fun piece => Ranged.slice piece 0 (min n piece.size)) =
        .ok (l.map fun piece => piece.extract 0 (min n piece.size)) :=
    Ranged.mapM_of_ok fun piece _ =>
      Ranged.slice_of_le (Nat.zero_le _) (Nat.min_le_right n piece.size)
  unfold rowsRanged rows
  rw [hslice]
  by_cases hpitch : f.rowPitch = 0
  · simp [hpitch]
  · have hpos : 0 < f.rowPitch := Nat.pos_of_ne_zero hpitch
    have hall : f.data.get.extract 0 f.data.get.size = f.data.get :=
      Array.extract_eq_self_of_le (Nat.le_refl _)
    rw [if_neg hpitch, if_neg hpitch, cutRows_eq_pieces hpos, hall, Nat.max_eq_left hpos]

theorem getElem?_cutRows (pitch length count start : Nat) (data : Bytes) (i : Nat) :
    (cutRows pitch length count start data)[i]? =
      if i < count ∧ start + i * pitch < data.size then
        some (data.extract (start + i * pitch)
          (min (start + i * pitch + min length pitch) data.size))
      else none := by
  induction count generalizing start i with
  | zero => simp [cutRows]
  | succ count ih =>
    rw [cutRows]
    by_cases hstart : start < data.size
    · rw [if_pos hstart]
      cases i with
      | zero => simp [hstart]
      | succ i =>
        have hnext : start + pitch + i * pitch = start + (i + 1) * pitch := by
          rw [Nat.succ_mul]
          omega
        rw [List.getElem?_cons_succ, ih, hnext]
        simp only [Nat.add_lt_add_iff_right]
    · rw [if_neg hstart, if_neg (by omega)]
      rfl

theorem rows_eq_nil {f : Frame} (hpitch : f.rowPitch = 0) : f.rows = [] := if_pos hpitch

/-- A row is there as long as there are rows to come and data for them. -/
theorem getElem?_rows {f : Frame} (hpitch : f.rowPitch ≠ 0) (i : Nat) :
    f.rows[i]? =
      if i < f.height.toNat ∧ i * f.rowPitch < f.data.get.size then
        some (f.data.get.extract (i * f.rowPitch)
          (min (i * f.rowPitch + min (f.width.toNat * f.bytesPerPixel.toNat) f.rowPitch)
            f.data.get.size))
      else none := by
  rw [rows, if_neg hpitch, getElem?_cutRows, Nat.zero_add]

theorem lt_length_rows {f : Frame} (hpitch : f.rowPitch ≠ 0) (i : Nat) :
    i < f.rows.length ↔ i < f.height.toNat ∧ i * f.rowPitch < f.data.get.size := by
  rw [← Nat.not_le, ← List.getElem?_eq_none_iff, getElem?_rows hpitch, ite_eq_right_iff]
  simp

/-- As many rows as cover the data, a last one that is cut short among them. -/
theorem length_rows {f : Frame} (hpitch : f.rowPitch ≠ 0) :
    f.rows.length =
      min f.height.toNat ((f.data.get.size + f.rowPitch - 1) / f.rowPitch) := by
  have hpos : 0 < f.rowPitch := Nat.pos_of_ne_zero hpitch
  refine eq_of_forall_lt_iff fun i => ?_
  rw [lt_length_rows hpitch, Nat.lt_min, Nat.lt_div_iff_mul_lt hpos]
  omega

/-- All the pixels of a frame are there, as many in a row as its stride has room for. -/
structure Full (f : Frame) : Prop where
  size : f.data.get.size = f.size.toNat
  layout : f.size.toNat = f.stride.toNat * f.height.toNat * f.bytesPerPixel.toNat
  positive : 0 < f.size.toNat
  fits : f.width ≤ f.stride

namespace Full

variable {f : Frame} (h : f.Full)

include h

theorem size_eq : f.data.get.size = f.height.toNat * f.rowPitch := by
  rw [h.size, h.layout, rowPitch, Nat.mul_comm f.stride.toNat, Nat.mul_assoc]

theorem rowPitch_ne_zero : f.rowPitch ≠ 0 := by
  intro h0
  have hnone := h.size_eq
  rw [h0, h.size, Nat.mul_zero] at hnone
  exact Nat.ne_of_gt h.positive hnone

theorem rowBytes_le : f.width.toNat * f.bytesPerPixel.toNat ≤ f.rowPitch :=
  Nat.mul_le_mul_right _ (UInt32.le_iff_toNat_le.mp h.fits)

/-- The next row begins within the data, or where it ends. -/
theorem end_le {y : Nat} (hy : y < f.height.toNat) :
    y * f.rowPitch + f.rowPitch ≤ f.data.get.size := by
  rw [h.size_eq, ← Nat.succ_mul]
  exact Nat.mul_le_mul_right _ hy

theorem length_rows : f.rows.length = f.height.toNat := by
  refine eq_of_forall_lt_iff fun i => ?_
  rw [lt_length_rows h.rowPitch_ne_zero]
  refine ⟨And.left, fun hi => ⟨hi, ?_⟩⟩
  have hend := h.end_le hi
  have hpos := Nat.pos_of_ne_zero h.rowPitch_ne_zero
  omega

theorem getElem?_rows {y : Nat} (hy : y < f.height.toNat) :
    f.rows[y]? = some (f.data.get.extract (y * f.rowPitch)
      (y * f.rowPitch + f.width.toNat * f.bytesPerPixel.toNat)) := by
  have hend := h.end_le hy
  have hrow := h.rowBytes_le
  have hpos := Nat.pos_of_ne_zero h.rowPitch_ne_zero
  rw [Frame.getElem?_rows h.rowPitch_ne_zero, if_pos ⟨hy, by omega⟩, Nat.min_eq_left hrow,
    Nat.min_eq_left (by omega)]

theorem size_row {row : Bytes} (hrow : row ∈ f.rows) :
    row.size = f.width.toNat * f.bytesPerPixel.toNat := by
  obtain ⟨y, hy⟩ := List.mem_iff_getElem?.mp hrow
  have hlt : y < f.height.toNat := by
    rw [← h.length_rows]
    exact (List.getElem?_eq_some_iff.mp hy).1
  have hend := h.end_le hlt
  have hbytes := h.rowBytes_le
  rw [h.getElem?_rows hlt] at hy
  rw [← Option.some.inj hy, Array.size_extract]
  omega

theorem exists_byte {x y b : Nat} (hx : x < f.width.toNat) (hy : y < f.height.toNat)
    (hb : b < f.bytesPerPixel.toNat) :
    ∃ row byte, f.rows[y]? = some row ∧ row[x * f.bytesPerPixel.toNat + b]? = some byte ∧
      f.data.get[(y * f.stride.toNat + x) * f.bytesPerPixel.toNat + b]? = some byte := by
  have hend := h.end_le hy
  have hbytes := h.rowBytes_le
  have hpixel : x * f.bytesPerPixel.toNat + b < f.width.toNat * f.bytesPerPixel.toNat := by
    have hnext := Nat.mul_le_mul_right f.bytesPerPixel.toNat hx
    rw [Nat.succ_mul] at hnext
    omega
  have hplace : (y * f.stride.toNat + x) * f.bytesPerPixel.toNat + b =
      y * f.rowPitch + (x * f.bytesPerPixel.toNat + b) := by
    rw [rowPitch, Nat.add_mul, Nat.mul_assoc, Nat.add_assoc]
  have hinside : y * f.rowPitch + (x * f.bytesPerPixel.toNat + b) < f.data.get.size := by omega
  refine ⟨_, f.data.get[y * f.rowPitch + (x * f.bytesPerPixel.toNat + b)], h.getElem?_rows hy,
    ?_, ?_⟩
  · rw [Array.getElem?_extract_of_lt (by omega)]
  · rw [hplace, Array.getElem?_eq_getElem hinside]

end Full

/-- No row reaches out of its piece of the data. There are none where a row takes no bytes, else as
many as the frame has and the data can fill at least in part, each from its place in the data up to
the end of its pixels or of the data. Where all the pixels are there, each is found in its row. -/
theorem rows_sliced (f : Frame) :
    let data := f.data.get
    let pitch := f.stride.toNat * f.bytesPerPixel.toNat
    let rowBytes := f.width.toNat * f.bytesPerPixel.toNat
    f.rowsRanged = .ok f.rows ∧
      (pitch = 0 → f.rows = []) ∧
      (0 < pitch →
        f.rows.length = min f.height.toNat ((data.size + pitch - 1) / pitch) ∧
          ∀ i row, f.rows[i]? = some row →
            Ranged.slice data (i * pitch) (min (i * pitch + min rowBytes pitch) data.size) =
              .ok row) ∧
      (data.size = f.size.toNat →
        f.size.toNat = f.stride.toNat * f.height.toNat * f.bytesPerPixel.toNat →
        0 < f.size.toNat → f.width ≤ f.stride →
        f.rows.length = f.height.toNat ∧ (∀ row ∈ f.rows, row.size = rowBytes) ∧
          ∀ x y b, x < f.width.toNat → y < f.height.toNat → b < f.bytesPerPixel.toNat →
            ∃ row byte, f.rows[y]? = some row ∧
              row[x * f.bytesPerPixel.toNat + b]? = some byte ∧
              data[(y * f.stride.toNat + x) * f.bytesPerPixel.toNat + b]? = some byte) := by
  intro data pitch rowBytes
  refine ⟨f.rowsRanged_eq, rows_eq_nil, fun hpitch => ⟨?_, fun i row hrow => ?_⟩,
    fun hsize hlayout hpos hfits => ?_⟩
  · exact length_rows (Nat.ne_of_gt hpitch)
  · rw [getElem?_rows (Nat.ne_of_gt hpitch)] at hrow
    obtain ⟨⟨_, hi⟩, he⟩ := Option.ite_none_right_eq_some.mp hrow
    rw [← Option.some.inj he]
    refine Ranged.slice_of_le ?_ (Nat.min_le_right _ _)
    exact Nat.le_min.mpr ⟨Nat.le_add_right _ _, Nat.le_of_lt hi⟩
  · have hfull : f.Full := ⟨hsize, hlayout, hpos, hfits⟩
    exact ⟨hfull.length_rows, fun _ => hfull.size_row, fun _ _ _ => hfull.exists_byte⟩

/-- Two rows of two pixels in a stride of three, and the same frame where the data ends in its
second row. -/
theorem rows_sliced_padded :
    let whole : Frame :=
      { data := ⟨fun _ => #[1, 1, 2, 2, 0, 0, 3, 3, 4, 4, 0, 0]⟩, format := .rgb565, width := 2,
        height := 2, stride := 3, bytesPerPixel := 2, size := 12, number := 0, timestamp := 0 }
    let short : Frame := { whole with data := ⟨fun _ => #[1, 1, 2, 2, 0, 0, 3]⟩ }
    (whole.data.get.size = whole.size.toNat ∧ 0 < whole.size.toNat ∧ whole.width ≤ whole.stride ∧
        whole.rows.length = 2 ∧ (∀ row ∈ whole.rows, row.size = 4) ∧
        ∃ row, whole.rows[1]? = some row ∧ row[2]? = some 4) ∧
      0 < short.stride.toNat * short.bytesPerPixel.toNat ∧ short.rows.length = 2 ∧
      ∀ row, short.rows[1]? = some row → row = #[3] := by
  intro whole short
  obtain ⟨_, _, _, hfull⟩ := rows_sliced whole
  obtain ⟨_, _, hcut, _⟩ := rows_sliced short
  obtain ⟨hlength, hsizes, hbytes⟩ := hfull rfl rfl (by decide) (by decide)
  obtain ⟨row, byte, hrow, hbyte, hdata⟩ := hbytes 1 1 0 (by decide) (by decide) (by decide)
  obtain ⟨hcount, hslices⟩ := hcut (by decide)
  refine ⟨⟨rfl, by decide, by decide, hlength, hsizes, row, hrow, ?_⟩, by decide,
    hcount.trans (by decide), fun row hrow => ?_⟩
  · cases hdata
    exact hbyte
  · have hslice := hslices 1 row hrow
    cases hslice
    rfl

end Frame

end ScreenCapture
