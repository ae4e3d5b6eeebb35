import Mathlib.Data.Nat.Digits.Defs
import ScreenCapture.Frame.Header

namespace ScreenCapture

/-- The number whose bytes begin at a place, the least significant first. -/
def numberAt (bytes : List UInt8) (start length : Nat) : Nat :=
  Nat.ofDigits 256 (((bytes.drop start).take length).map UInt8.toNat)

theorem Word.ofDigits_toBytes (w : UInt32) :
    Nat.ofDigits 256 ((toBytes w).map UInt8.toNat) = w.toNat := by
  have hw := w.toNat_lt
  simp only [toBytes, List.map_cons, List.map_nil, Nat.ofDigits_cons, Nat.ofDigits_nil,
    UInt8.toNat_ofNat']
  omega

theorem Word.exists_toBytes (bytes : List UInt8) (h : 4 ≤ bytes.length) :
    ∃ w rest, bytes = toBytes w ++ rest ∧ bytes.length = 4 + rest.length := by
  cases ht : take? bytes with
  | none =>
    have hlt := take?_eq_none.mp ht
    omega
  | some r =>
    have hb := eq_toBytes_of_take? ht
    exact ⟨r.1, r.2, hb, by rw [hb, List.length_append, length_toBytes]⟩

theorem PixelFormat.index_of_ofIndex? {i : Nat} {f : PixelFormat} (h : ofIndex? i = some f) :
    f.index = i := by
  have hn : all.Nodup := by decide
  exact (List.getElem?_inj f.index_lt hn).mp ((ofIndex?_index f).trans h.symm)

namespace FrameHeader

/-- The words of a header as they stand, whether they make up a header or not. -/
structure Words where
  version : UInt32
  format : UInt32
  width : UInt32
  height : UInt32
  stride : UInt32
  bpp : UInt8
  size : UInt32

namespace Words

def bytes (r : Words) : List UInt8 :=
  Word.toBytes r.version ++ (Word.toBytes r.format ++ (Word.toBytes r.width ++
    (Word.toBytes r.height ++ (Word.toBytes r.stride ++ (r.bpp :: Word.toBytes r.size)))))

def header (r : Words) (format : PixelFormat) : FrameHeader :=
  { format, width := r.width, height := r.height, stride := r.stride, bpp := r.bpp, size := r.size }

end Words

/-- The words that are written for a header. -/
def words (h : FrameHeader) : Words :=
  { version := wireVersion, format := UInt32.ofNat h.format.index, width := h.width
    height := h.height, stride := h.stride, bpp := h.bpp, size := h.size }

theorem encode_eq (h : FrameHeader) : h.encode = h.words.bytes := by
  simp [encode, Words.bytes, words]

theorem words_format (h : FrameHeader) : h.words.format.toNat = h.format.index := by
  have hi := h.format.index_lt
  rw [words, UInt32.toNat_ofNat']
  omega

theorem formatOf_words (h : FrameHeader) : formatOf h.words.format = .ok h.format := by
  simp only [formatOf, words_format, PixelFormat.ofIndex?_index]

theorem index_of_formatOf {i : UInt32} {f : PixelFormat} (h : formatOf i = .ok f) :
    i = UInt32.ofNat f.index := by
  unfold formatOf at h
  split at h
  next g hg =>
    obtain rfl := Except.ok.inj h
    rw [PixelFormat.index_of_ofIndex? hg, UInt32.ofNat_toNat]
  next => cases h

theorem word_toBytes (w : UInt32) (rest : List UInt8) :
    word (Word.toBytes w ++ rest) = .ok (w, rest) := by
  simp only [word, Word.take?_toBytes]

theorem word_short {bytes : List UInt8} (h : bytes.length < 4) :
    word bytes = .error .endOfInput := by
  simp only [word, Word.take?_eq_none.mpr h]

/-- Only the format can be wrong where there are bytes enough. -/
theorem read_words (r : Words) (rest : List UInt8) :
    read (r.bytes ++ rest) = (formatOf r.format).map fun format => (r.version, r.header format) := by
  simp only [Words.bytes, List.append_assoc, List.cons_append, read, word_toBytes, byte, bind,
    Except.bind]
  cases formatOf r.format <;> rfl

theorem exists_words {bytes : List UInt8} (h : 25 ≤ bytes.length) :
    ∃ (r : Words) (rest : List UInt8), bytes = r.bytes ++ rest := by
  obtain ⟨version, b1, rfl, h1⟩ := Word.exists_toBytes bytes (by omega)
  obtain ⟨format, b2, rfl, h2⟩ := Word.exists_toBytes b1 (by omega)
  obtain ⟨width, b3, rfl, h3⟩ := Word.exists_toBytes b2 (by omega)
  obtain ⟨height, b4, rfl, h4⟩ := Word.exists_toBytes b3 (by omega)
  obtain ⟨stride, b5, rfl, h5⟩ := Word.exists_toBytes b4 (by omega)
  obtain ⟨bpp, b6, rfl⟩ := List.exists_cons_of_length_pos (l := b5) (by omega)
  rw [List.length_cons] at h5
  obtain ⟨size, rest, rfl, _⟩ := Word.exists_toBytes b6 (by omega)
  exact ⟨⟨version, format, width, height, stride, bpp, size⟩, rest, by simp [Words.bytes]⟩

/-- A word that can be read off the front is followed by what is left. -/
theorem length_of_word {bytes rest : List UInt8} {w : UInt32} (h : word bytes = .ok (w, rest)) :
    bytes.length = 4 + rest.length := by
  by_cases hb : bytes.length < 4
  · rw [word_short hb] at h
    cases h
  · obtain ⟨v, tail, rfl, hl⟩ := Word.exists_toBytes bytes (Nat.le_of_not_lt hb)
    rw [word_toBytes] at h
    cases h
    exact hl

theorem bind_eq_ok {ε α β : Type} {x : Except ε α} {f : α → Except ε β} {b : β}
    (h : x >>= f = .ok b) : ∃ a, x = .ok a ∧ f a = .ok b := by
  cases x with
  | error e => cases h
  | ok a => exact ⟨a, rfl, h⟩

theorem length_of_byte {bytes rest : List UInt8} {b : UInt8} (h : byte bytes = .ok (b, rest)) :
    bytes.length = 1 + rest.length := by
  cases bytes with
  | nil => cases h
  | cons c tail =>
    cases h
    exact Nat.add_comm _ _

theorem length_of_read {bytes : List UInt8} {r : UInt32 × FrameHeader} (h : read bytes = .ok r) :
    25 ≤ bytes.length := by
  unfold read at h
  obtain ⟨⟨_, b1⟩, h1, h⟩ := bind_eq_ok h
  obtain ⟨⟨_, b2⟩, h2, h⟩ := bind_eq_ok h
  obtain ⟨_, _, h⟩ := bind_eq_ok h
  obtain ⟨⟨_, b3⟩, h3, h⟩ := bind_eq_ok h
  obtain ⟨⟨_, b4⟩, h4, h⟩ := bind_eq_ok h
  obtain ⟨⟨_, b5⟩, h5, h⟩ := bind_eq_ok h
  obtain ⟨⟨_, b6⟩, h6, h⟩ := bind_eq_ok h
  obtain ⟨⟨_, b7⟩, h7, _⟩ := bind_eq_ok h
  have l1 := length_of_word h1
  have l2 := length_of_word h2
  have l3 := length_of_word h3
  have l4 := length_of_word h4
  have l5 := length_of_word h5
  have l6 := length_of_byte h6
  have l7 := length_of_word h7
  omega

/-- What is read are the words of a header of some version, at the front of the bytes. -/
theorem read_eq_ok_iff {bytes : List UInt8} {version : UInt32} {h : FrameHeader} :
    read bytes = .ok (version, h) ↔ { h.words with version }.bytes <+: bytes := by
  constructor
  · intro hr
    obtain ⟨r, rest, rfl⟩ := exists_words (length_of_read hr)
    rw [read_words] at hr
    cases hf : formatOf r.format with
    | error e =>
      rw [hf] at hr
      cases hr
    | ok format =>
      rw [hf] at hr
      cases hr
      refine ⟨rest, congrArg (fun words : Words => words.bytes ++ rest) ?_⟩
      simp only [words, Words.header, ← index_of_formatOf hf]
  · rintro ⟨rest, rfl⟩
    rw [read_words]
    simp only [formatOf_words]
    rfl

theorem decode_of_read {bytes : List UInt8} {version : UInt32} {h : FrameHeader}
    (hr : read bytes = .ok (version, h)) : decode bytes =
      if version ≠ wireVersion then .error (.versionMismatch version)
      else if h.layoutSize = h.size.toNat then .ok h
      else .error (.sizeMismatch h.size h.layoutSize) := by
  simp only [decode, hr, bind, Except.bind, validate]
  by_cases hv : version = wireVersion
  · by_cases hs : h.layoutSize = h.size.toNat <;> simp [hv, hs]
  · simp [hv]

theorem read_of_decode {bytes : List UInt8} {h : FrameHeader} (hd : decode bytes = .ok h) :
    read bytes = .ok (wireVersion, h) ∧ h.layoutSize = h.size.toNat := by
  obtain ⟨⟨version, g⟩, hr, _⟩ := bind_eq_ok hd
  rw [decode_of_read hr] at hd
  split at hd
  next => cases hd
  next hv =>
    split at hd
    next hs =>
      cases hd
      exact ⟨not_not.mp hv ▸ hr, hs⟩
    next => cases hd

theorem read_encode (h : FrameHeader) (rest : List UInt8) :
    read (h.encode ++ rest) = .ok (wireVersion, h) :=
  read_eq_ok_iff.mpr ⟨rest, by rw [encode_eq]; rfl⟩

theorem decode_encode (h : FrameHeader) : decode h.encode =
    if h.layoutSize = h.size.toNat then .ok h else .error (.sizeMismatch h.size h.layoutSize) := by
  have hr := read_encode h []
  rw [List.append_nil] at hr
  rw [decode_of_read hr, if_neg (not_not_intro rfl)]

theorem decode_eq_ok_iff {bytes : List UInt8} {h : FrameHeader} :
    decode bytes = .ok h ↔ h.encode <+: bytes ∧ h.layoutSize = h.size.toNat := by
  constructor
  · intro hd
    obtain ⟨hr, hs⟩ := read_of_decode hd
    rw [encode_eq]
    exact ⟨read_eq_ok_iff.mp hr, hs⟩
  · rintro ⟨⟨rest, rfl⟩, hs⟩
    rw [decode_of_read (read_encode h rest), if_neg (not_not_intro rfl), if_pos hs]

theorem encode_injective : Function.Injective encode := by
  intro h g he
  have hh := read_encode h []
  rw [he, read_encode] at hh
  exact (congrArg Prod.snd (Except.ok.inj hh)).symm

theorem Words.length_bytes (r : Words) : r.bytes.length = 25 := rfl

/-- What follows the header is not looked at. -/
theorem decode_take (bytes : List UInt8) : decode (bytes.take 25) = decode bytes := by
  by_cases hb : bytes.length < 25
  · rw [List.take_of_length_le (Nat.le_of_lt hb)]
  · obtain ⟨r, rest, rfl⟩ := exists_words (Nat.le_of_not_lt hb)
    rw [List.take_left' r.length_bytes]
    have hr : read r.bytes = read (r.bytes ++ rest) := by
      rw [read_words, ← read_words r [], List.append_nil]
    simp only [decode, hr]

/-- The words of a header stand in a byte string, each where it belongs. -/
structure Written (h : FrameHeader) (bytes : List UInt8) : Prop where
  length : bytes.length = 25
  version : numberAt bytes 0 4 = 1
  format : numberAt bytes 4 4 = h.format.index
  width : numberAt bytes 8 4 = h.width.toNat
  height : numberAt bytes 12 4 = h.height.toNat
  stride : numberAt bytes 16 4 = h.stride.toNat
  bpp : numberAt bytes 20 1 = h.bpp.toNat
  size : numberAt bytes 21 4 = h.size.toNat

theorem written_encode (h : FrameHeader) : h.Written h.encode where
  length := h.length_encode
  version := rfl
  format := (Word.ofDigits_toBytes _).trans h.words_format
  width := Word.ofDigits_toBytes h.width
  height := Word.ofDigits_toBytes h.height
  stride := Word.ofDigits_toBytes h.stride
  bpp := Nat.ofDigits_singleton
  size := Word.ofDigits_toBytes h.size

/-- There is no other way to write a header down. -/
theorem Written.eq_encode {h : FrameHeader} {bytes : List UInt8} (hw : h.Written bytes) :
    bytes = h.encode := by
  obtain ⟨r, rest, rfl⟩ := exists_words (Nat.le_of_eq hw.length.symm)
  have hrest : rest = [] := by
    have hl := hw.length
    rw [List.length_append, r.length_bytes] at hl
    exact List.length_eq_zero_iff.mp (by omega)
  subst hrest
  rw [List.append_nil] at hw ⊢
  have hversion : r.version.toNat = 1 := (Word.ofDigits_toBytes _).symm.trans hw.version
  have hformat : r.format.toNat = h.words.format.toNat :=
    ((Word.ofDigits_toBytes _).symm.trans hw.format).trans h.words_format.symm
  have hwidth : r.width.toNat = h.width.toNat := (Word.ofDigits_toBytes _).symm.trans hw.width
  have hheight : r.height.toNat = h.height.toNat := (Word.ofDigits_toBytes _).symm.trans hw.height
  have hstride : r.stride.toNat = h.stride.toNat := (Word.ofDigits_toBytes _).symm.trans hw.stride
  have hbpp : r.bpp.toNat = h.bpp.toNat := Nat.ofDigits_singleton.symm.trans hw.bpp
  have hsize : r.size.toNat = h.size.toNat := (Word.ofDigits_toBytes _).symm.trans hw.size
  have hr : r = h.words := by
    obtain ⟨version, format, width, height, stride, bpp, size⟩ := r
    rw [words, Words.mk.injEq]
    exact ⟨UInt32.toNat_inj.mp hversion, UInt32.toNat_inj.mp hformat, UInt32.toNat_inj.mp hwidth,
      UInt32.toNat_inj.mp hheight, UInt32.toNat_inj.mp hstride, UInt8.toNat_inj.mp hbpp,
      UInt32.toNat_inj.mp hsize⟩
  rw [hr, encode_eq]

/-- A layout that fits in sixty-four bits can be counted in them. -/
theorem layoutSize_toUInt64 (h : FrameHeader) (hl : h.layoutSize < 2 ^ 64) :
    (h.stride.toUInt64 * h.height.toUInt64 * h.bpp.toUInt64).toNat = h.layoutSize := by
  have hpixels : h.stride.toNat * h.height.toNat < 2 ^ 64 := by
    calc h.stride.toNat * h.height.toNat
        < 2 ^ 32 * 2 ^ 32 := Nat.mul_lt_mul'' h.stride.toNat_lt h.height.toNat_lt
      _ = 2 ^ 64 := by decide
  unfold layoutSize at hl ⊢
  simp only [UInt64.toNat_mul, UInt32.toNat_toUInt64, UInt8.toNat_toUInt64]
  rw [Nat.mod_eq_of_lt hpixels, Nat.mod_eq_of_lt hl]

/-- A header is written in one way, as the number of the version, the index of the format and the
numbers of the layout, and read back from just these bytes, whatever follows them. Read are the
headers whose size is that of their layout; for any other the two sizes are reported, which can be
compared in sixty-four bits if the layout fits in them. -/
theorem codec_exact :
    (∀ (h : FrameHeader) (bytes : List UInt8), h.Written bytes ↔ bytes = h.encode) ∧
      (∀ h : FrameHeader, decode h.encode =
        if h.layoutSize = h.size.toNat then .ok h
        else .error (.sizeMismatch h.size h.layoutSize)) ∧
      (∀ (bytes : List UInt8) (h : FrameHeader),
        decode bytes = .ok h ↔ h.encode <+: bytes ∧ h.layoutSize = h.size.toNat) ∧
      (∀ h : FrameHeader, (∃ bytes, decode bytes = .ok h) ↔ h.layoutSize = h.size.toNat) ∧
      Function.Injective encode ∧
      (∀ bytes : List UInt8, decode (bytes.take 25) = decode bytes) ∧
      ∀ h : FrameHeader, h.layoutSize < 2 ^ 64 →
        (h.stride.toUInt64 * h.height.toUInt64 * h.bpp.toUInt64).toNat = h.layoutSize := by
  refine ⟨fun h bytes => ⟨Written.eq_encode, ?_⟩, decode_encode, fun bytes h => decode_eq_ok_iff,
    fun h => ⟨?_, ?_⟩, encode_injective, decode_take, layoutSize_toUInt64⟩
  · rintro rfl
    exact h.written_encode
  · rintro ⟨bytes, hd⟩
    exact (decode_eq_ok_iff.mp hd).2
  · intro hs
    exact ⟨h.encode, decode_eq_ok_iff.mpr ⟨List.prefix_rfl, hs⟩⟩

/-- A frame of 540 by 960 pixels, in rows of 544. -/
theorem codec_exact_padded :
    let h : FrameHeader := .ofLayout .rgba8888 540 960 544 4
    h.layoutSize < 2 ^ 64 ∧
      (h.stride.toUInt64 * h.height.toUInt64 * h.bpp.toUInt64).toNat = h.layoutSize ∧
      decode (h.encode ++ [7]) = .ok h := by
  obtain ⟨_, _, hdecode, _, _, _, hcount⟩ := codec_exact
  have hl : (ofLayout .rgba8888 540 960 544 4).layoutSize < 2 ^ 64 := by decide
  exact ⟨hl, hcount _ hl, (hdecode _ _).mpr ⟨List.prefix_append _ _, by decide⟩⟩

end FrameHeader

end ScreenCapture
