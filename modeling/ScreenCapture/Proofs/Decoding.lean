import ScreenCapture.Proofs.Describing

namespace ScreenCapture

theorem PixelFormat.ofIndex?_eq_none {i : Nat} : ofIndex? i = none ↔ 13 ≤ i :=
  List.getElem?_eq_none_iff

namespace FrameHeader

/-- What there is to say about bytes that are to be a header. -/
inductive Finding
  | short
  | unknownFormat
  | cut
  | otherVersion
  | wrongSize
  | sound

/-- The bytes that a layout takes, by the numbers that stand where it is written. -/
def layoutAt (bytes : List UInt8) : Nat :=
  numberAt bytes 16 4 * numberAt bytes 12 4 * numberAt bytes 20 1

namespace Finding

/-- Format before length, length before version, version before size. -/
def Applies (bytes : List UInt8) : Finding → Prop
  | short => bytes.length < 8
  | unknownFormat => 8 ≤ bytes.length ∧ 13 ≤ numberAt bytes 4 4
  | cut => 8 ≤ bytes.length ∧ numberAt bytes 4 4 < 13 ∧ bytes.length < 25
  | otherVersion => 25 ≤ bytes.length ∧ numberAt bytes 4 4 < 13 ∧ numberAt bytes 0 4 ≠ 1
  | wrongSize => 25 ≤ bytes.length ∧ numberAt bytes 4 4 < 13 ∧ numberAt bytes 0 4 = 1 ∧
      layoutAt bytes ≠ numberAt bytes 21 4
  | sound => 25 ≤ bytes.length ∧ numberAt bytes 4 4 < 13 ∧ numberAt bytes 0 4 = 1 ∧
      layoutAt bytes = numberAt bytes 21 4

instance (bytes : List UInt8) : DecidablePred (Applies bytes)
  | short => inferInstanceAs (Decidable (_ < _))
  | unknownFormat | cut | otherVersion | wrongSize | sound => inferInstanceAs (Decidable (_ ∧ _))

/-- What is answered then. -/
def Answered (bytes : List UInt8) (answer : Except HeaderError FrameHeader) : Finding → Prop
  | short | cut => answer = .error .endOfInput
  | unknownFormat => ∃ index : UInt32, index.toNat = numberAt bytes 4 4 ∧
      answer = .error (.unknownFormat index)
  | otherVersion => ∃ version : UInt32, version.toNat = numberAt bytes 0 4 ∧
      answer = .error (.versionMismatch version)
  | wrongSize => ∃ declared : UInt32, declared.toNat = numberAt bytes 21 4 ∧
      answer = .error (.sizeMismatch declared (layoutAt bytes))
  | sound => ∃ h : FrameHeader, h.Written (bytes.take 25) ∧ answer = .ok h

theorem exists_applies (bytes : List UInt8) : ∃ finding : Finding, finding.Applies bytes := by
  by_cases h8 : bytes.length < 8
  · exact ⟨short, h8⟩
  by_cases hformat : 13 ≤ numberAt bytes 4 4
  · exact ⟨unknownFormat, Nat.le_of_not_lt h8, hformat⟩
  by_cases h25 : bytes.length < 25
  · exact ⟨cut, Nat.le_of_not_lt h8, Nat.lt_of_not_le hformat, h25⟩
  by_cases hversion : numberAt bytes 0 4 = 1
  · by_cases hsize : layoutAt bytes = numberAt bytes 21 4
    · exact ⟨sound, Nat.le_of_not_lt h25, Nat.lt_of_not_le hformat, hversion, hsize⟩
    · exact ⟨wrongSize, Nat.le_of_not_lt h25, Nat.lt_of_not_le hformat, hversion, hsize⟩
  · exact ⟨otherVersion, Nat.le_of_not_lt h25, Nat.lt_of_not_le hformat, hversion⟩

theorem Applies.unique {bytes : List UInt8} {finding other : Finding}
    (h : finding.Applies bytes) (h' : other.Applies bytes) : other = finding := by
  cases finding <;> cases other <;> simp only [Applies] at h h' <;> first | rfl | omega

end Finding

variable {bytes : List UInt8}

theorem bind_eq_error {ε α β : Type} {x : Except ε α} {f : α → Except ε β} {e : ε}
    (h : x >>= f = .error e) : x = .error e ∨ ∃ a, x = .ok a ∧ f a = .error e := by
  cases x with
  | error e' =>
    have he : Except.error (α := β) e' = .error e := h
    exact .inl (congrArg Except.error (Except.error.inj he))
  | ok a => exact .inr ⟨a, rfl, h⟩

theorem eq_of_word {rest : List UInt8} {w : UInt32} (h : word bytes = .ok (w, rest)) :
    bytes = Word.toBytes w ++ rest := by
  unfold word at h
  split at h
  next r hr =>
    obtain rfl := Except.ok.inj h
    exact Word.eq_toBytes_of_take? hr
  next => cases h

theorem error_of_word {e : HeaderError} (h : word bytes = .error e) : e = .endOfInput := by
  unfold word at h
  split at h
  next => cases h
  next => exact (Except.error.inj h).symm

theorem error_of_byte {e : HeaderError} (h : byte bytes = .error e) : e = .endOfInput := by
  cases bytes with
  | nil => exact (Except.error.inj h).symm
  | cons b rest => cases h

/-- Where a header cannot be read, it is cut off, or its format is unknown. -/
theorem error_of_read {e : HeaderError} (h : read bytes = .error e) : e = .endOfInput ∨
    ∃ version index rest, bytes = Word.toBytes version ++ (Word.toBytes index ++ rest) ∧
      formatOf index = .error e := by
  unfold read at h
  rcases bind_eq_error h with h | ⟨⟨version, b1⟩, h1, h⟩
  · exact .inl (error_of_word h)
  rcases bind_eq_error h with h | ⟨⟨index, b2⟩, h2, h⟩
  · exact .inl (error_of_word h)
  rcases bind_eq_error h with hformat | ⟨_, _, h⟩
  · obtain rfl := eq_of_word h1
    obtain rfl := eq_of_word h2
    exact .inr ⟨version, index, b2, rfl, hformat⟩
  left
  rcases bind_eq_error h with h | ⟨⟨_, b3⟩, _, h⟩
  · exact error_of_word h
  rcases bind_eq_error h with h | ⟨⟨_, b4⟩, _, h⟩
  · exact error_of_word h
  rcases bind_eq_error h with h | ⟨⟨_, b5⟩, _, h⟩
  · exact error_of_word h
  rcases bind_eq_error h with h | ⟨⟨_, b6⟩, _, h⟩
  · exact error_of_byte h
  rcases bind_eq_error h with h | ⟨_, _, h⟩
  · exact error_of_word h
  cases h

theorem decode_of_error {e : HeaderError} (h : read bytes = .error e) :
    decode bytes = .error e := by
  simp only [decode, h, bind, Except.bind]

theorem formatOf_known {index : UInt32} (h : index.toNat < 13) :
    ∃ format, formatOf index = .ok format := by
  cases hf : PixelFormat.ofIndex? index.toNat with
  | some format => exact ⟨format, by rw [formatOf, hf]⟩
  | none => exact absurd (PixelFormat.ofIndex?_eq_none.mp hf) (Nat.not_le_of_lt h)

theorem formatOf_unknown {index : UInt32} (h : 13 ≤ index.toNat) :
    formatOf index = .error (.unknownFormat index) := by
  rw [formatOf, PixelFormat.ofIndex?_eq_none.mpr h]

/-- The format is looked up before anything is read behind it. -/
theorem read_of_unknown {version index : UInt32} {rest : List UInt8} (h : 13 ≤ index.toNat) :
    read (Word.toBytes version ++ (Word.toBytes index ++ rest)) =
      .error (.unknownFormat index) := by
  simp only [read, word_toBytes, formatOf_unknown h, bind, Except.bind]

theorem exists_version_format (h : 8 ≤ bytes.length) : ∃ (version index : UInt32) (rest : _),
    bytes = Word.toBytes version ++ (Word.toBytes index ++ rest) ∧
      index.toNat = numberAt bytes 4 4 := by
  obtain ⟨version, b1, rfl, h1⟩ := Word.exists_toBytes bytes (by omega)
  obtain ⟨index, rest, rfl, _⟩ := Word.exists_toBytes b1 (by omega)
  exact ⟨version, index, rest, rfl, (Word.ofDigits_toBytes index).symm⟩

theorem written_words {r : Words} {format : PixelFormat} (hversion : r.version.toNat = 1)
    (hformat : formatOf r.format = .ok format) : (r.header format).Written r.bytes := by
  have hr : (r.header format).words = r := by
    have hv : r.version = wireVersion := UInt32.toNat_inj.mp hversion
    simp only [words, Words.header, ← index_of_formatOf hformat, ← hv]
  have hw := (r.header format).written_encode
  rwa [encode_eq, hr] at hw

theorem decode_short (h : bytes.length < 8) : decode bytes = .error .endOfInput := by
  cases hr : read bytes with
  | ok r =>
    have hl := length_of_read hr
    omega
  | error e =>
    rcases error_of_read hr with rfl | ⟨version, index, rest, rfl, _⟩
    · exact decode_of_error hr
    · simp only [List.length_append, Word.length_toBytes] at h
      omega

theorem decode_cut (h8 : 8 ≤ bytes.length) (hformat : numberAt bytes 4 4 < 13)
    (h25 : bytes.length < 25) : decode bytes = .error .endOfInput := by
  obtain ⟨version, index, rest, rfl, hindex⟩ := exists_version_format h8
  obtain ⟨format, hf⟩ := formatOf_known (hindex.trans_lt hformat)
  cases hr : read (Word.toBytes version ++ (Word.toBytes index ++ rest)) with
  | ok r =>
    have hl := length_of_read hr
    omega
  | error e =>
    rcases error_of_read hr with rfl | ⟨version', index', rest', heq, he⟩
    · exact decode_of_error hr
    · -- the index that was looked up is the one that is known
      have hword := congrArg word (List.append_inj_right heq rfl)
      rw [word_toBytes, word_toBytes] at hword
      cases hword
      rw [hf] at he
      cases he

theorem numberAt_words (r : Words) (rest : List UInt8) :
    numberAt (r.bytes ++ rest) 0 4 = r.version.toNat ∧
      numberAt (r.bytes ++ rest) 4 4 = r.format.toNat ∧
      layoutAt (r.bytes ++ rest) = r.stride.toNat * r.height.toNat * r.bpp.toNat ∧
      numberAt (r.bytes ++ rest) 21 4 = r.size.toNat := by
  have hstride : numberAt (r.bytes ++ rest) 16 4 = r.stride.toNat := Word.ofDigits_toBytes r.stride
  have hheight : numberAt (r.bytes ++ rest) 12 4 = r.height.toNat := Word.ofDigits_toBytes r.height
  have hbpp : numberAt (r.bytes ++ rest) 20 1 = r.bpp.toNat := Nat.ofDigits_singleton
  refine ⟨Word.ofDigits_toBytes r.version, Word.ofDigits_toBytes r.format, ?_,
    Word.ofDigits_toBytes r.size⟩
  rw [layoutAt, hstride, hheight, hbpp]

/-- A complete header of a known format is decoded by its version and its size. -/
theorem decode_complete (h25 : 25 ≤ bytes.length) (hformat : numberAt bytes 4 4 < 13) :
    ∃ (r : Words) (format : PixelFormat), r.version.toNat = numberAt bytes 0 4 ∧
      r.size.toNat = numberAt bytes 21 4 ∧
      (r.version.toNat = 1 → (r.header format).Written (bytes.take 25)) ∧
      decode bytes =
        if r.version ≠ wireVersion then .error (.versionMismatch r.version)
        else if layoutAt bytes = r.size.toNat then .ok (r.header format)
        else .error (.sizeMismatch r.size (layoutAt bytes)) := by
  obtain ⟨r, rest, rfl⟩ := exists_words h25
  obtain ⟨hversion, hindex, hlayout, hsize⟩ := numberAt_words r rest
  obtain ⟨format, hf⟩ := formatOf_known (hindex.symm.trans_lt hformat)
  have hr : read (r.bytes ++ rest) = .ok (r.version, r.header format) := by
    rw [read_words, hf]
    rfl
  refine ⟨r, format, hversion.symm, hsize.symm, fun hone => ?_, ?_⟩
  · rw [List.take_left' r.length_bytes]
    exact written_words hone hf
  · rw [decode_of_read hr, hlayout]
    rfl

theorem Finding.Applies.answered {finding : Finding} (h : finding.Applies bytes) :
    finding.Answered bytes (decode bytes) := by
  cases finding with
  | short => exact decode_short h
  | unknownFormat =>
    obtain ⟨version, index, rest, rfl, hindex⟩ := exists_version_format h.1
    exact ⟨index, hindex, decode_of_error (read_of_unknown (hindex.symm ▸ h.2))⟩
  | cut => exact decode_cut h.1 h.2.1 h.2.2
  | otherVersion =>
    obtain ⟨h25, hformat, hother⟩ := h
    obtain ⟨r, _, hversion, _, _, hd⟩ := decode_complete h25 hformat
    have hne : r.version ≠ wireVersion := fun he =>
      hother (hversion.symm.trans (congrArg UInt32.toNat he))
    exact ⟨r.version, hversion, by rw [hd, if_pos hne]⟩
  | wrongSize =>
    obtain ⟨h25, hformat, hone, hwrong⟩ := h
    obtain ⟨r, _, hversion, hsize, _, hd⟩ := decode_complete h25 hformat
    have hv : r.version = wireVersion := UInt32.toNat_inj.mp (hversion.trans hone)
    rw [← hsize] at hwrong
    exact ⟨r.size, hsize, by rw [hd, if_neg (not_not_intro hv), if_neg hwrong]⟩
  | sound =>
    obtain ⟨h25, hformat, hone, hright⟩ := h
    obtain ⟨r, format, hversion, hsize, hwritten, hd⟩ := decode_complete h25 hformat
    have hv : r.version = wireVersion := UInt32.toNat_inj.mp (hversion.trans hone)
    rw [← hsize] at hright
    exact ⟨r.header format, hwritten (hversion.trans hone),
      by rw [hd, if_neg (not_not_intro hv), if_pos hright]⟩

/-- A byte string is decoded, or refused for one reason: that it ends before its format is known,
that there is no such format, that it ends before its size, that its version is another one, or that
its size is not that of its layout. Where several of these are the case, the first is reported. A
layout that fits in sixty-four bits can be counted in them. -/
theorem decode_classified (bytes : List UInt8) :
    (∃! finding : Finding, finding.Applies bytes) ∧
      (∀ finding : Finding, finding.Applies bytes → finding.Answered bytes (decode bytes)) ∧
      (∀ actual, (HeaderError.versionMismatch actual).message =
        s!"Protocol version mismatch: expected 1, got {actual}") ∧
      ∀ (stride height : UInt32) (bpp : UInt8), stride.toNat = numberAt bytes 16 4 →
        height.toNat = numberAt bytes 12 4 → bpp.toNat = numberAt bytes 20 1 →
        layoutAt bytes < 2 ^ 64 →
        (stride.toUInt64 * height.toUInt64 * bpp.toUInt64).toNat = layoutAt bytes := by
  refine ⟨?_, fun _ => Finding.Applies.answered, fun _ => rfl, ?_⟩
  · obtain ⟨finding, hfinding⟩ := Finding.exists_applies bytes
    exact ⟨finding, hfinding, fun _ => hfinding.unique⟩
  · intro stride height bpp hstride hheight hbpp hfits
    have hlayout : layoutAt bytes = stride.toNat * height.toNat * bpp.toNat := by
      rw [layoutAt, hstride, hheight, hbpp]
    rw [hlayout] at hfits ⊢
    exact layoutSize_toUInt64 ⟨.unset, 0, height, stride, bpp, 0⟩ hfits

/-- A header of the second version whose size is wrong as well, and one of an unknown format that is
cut off. -/
theorem decode_classified_twice :
    let bytes : List UInt8 := [2, 0, 0, 0, 5, 0, 0, 0, 4, 0, 0, 0, 4, 0, 0, 0, 32, 0, 0, 0, 4, 1, 2,
      0, 0]
    layoutAt bytes < 2 ^ 64 ∧ layoutAt bytes ≠ numberAt bytes 21 4 ∧
      decode bytes = .error (.versionMismatch 2) ∧
      ((32 : UInt32).toUInt64 * (4 : UInt32).toUInt64 * (4 : UInt8).toUInt64).toNat =
        layoutAt bytes ∧
      decode [0, 0, 0, 0, 13, 0, 0, 0, 1] = .error (.unknownFormat 13) := by
  intro bytes
  obtain ⟨_, hother, _, hcount⟩ := decode_classified bytes
  obtain ⟨_, hunknown, _, _⟩ := decode_classified [0, 0, 0, 0, 13, 0, 0, 0, 1]
  have hfits : layoutAt bytes < 2 ^ 64 := by decide
  obtain ⟨version, hversion, ho⟩ := hother .otherVersion (by decide)
  obtain ⟨index, hindex, hu⟩ := hunknown .unknownFormat (by decide)
  obtain rfl : version = 2 := UInt32.toNat_inj.mp (hversion.trans (by decide))
  obtain rfl : index = 13 := UInt32.toNat_inj.mp (hindex.trans (by decide))
  exact ⟨hfits, by decide, ho, hcount 32 4 4 (by decide) (by decide) (by decide) hfits, hu⟩

section Derived

variable {format : PixelFormat} {width height stride : UInt32} {bpp : UInt8}

theorem ofLayout_fits (hle : stride.toNat * height.toNat * bpp.toNat ≤ 2 ^ 32 - 1) :
    (ofLayout format width height stride bpp).validate = .ok () ∧
      decode (ofLayout format width height stride bpp).encode =
        .ok (ofLayout format width height stride bpp) := by
  have hsize := ofLayout_size format width height stride bpp
  rw [Nat.min_eq_left hle] at hsize
  exact ⟨if_pos hsize.symm, (decode_encode _).trans (if_pos hsize.symm)⟩

/-- The size is the largest word there is, which is too small. -/
theorem ofLayout_exceeds (hlt : 2 ^ 32 - 1 < stride.toNat * height.toNat * bpp.toNat) :
    (ofLayout format width height stride bpp).validate =
        .error (.sizeMismatch 4294967295 (stride.toNat * height.toNat * bpp.toNat)) ∧
      decode (ofLayout format width height stride bpp).encode =
        .error (.sizeMismatch 4294967295 (stride.toNat * height.toNat * bpp.toNat)) := by
  have hsize := ofLayout_size format width height stride bpp
  rw [Nat.min_eq_right (Nat.le_of_lt hlt)] at hsize
  have hcapped : (ofLayout format width height stride bpp).size = 4294967295 :=
    UInt32.toNat_inj.mp hsize
  have hne : (ofLayout format width height stride bpp).layoutSize ≠
      (ofLayout format width height stride bpp).size.toNat := by
    rw [hsize]
    exact Nat.ne_of_gt hlt
  rw [validate, decode_encode, if_neg hne, if_neg hne, hcapped]
  exact ⟨rfl, rfl⟩

end Derived

/-- A header that is derived from a layout is valid, and is read back as it was written, just when
the bytes of the layout can be counted in a word, as they can be where there are none. Otherwise the
largest word is reported as its size. -/
theorem derived_valid_iff (format : PixelFormat) (width height stride : UInt32) (bpp : UInt8)
    (hfits : stride.toNat * height.toNat * bpp.toNat < 2 ^ 64) :
    let h := ofLayout format width height stride bpp
    let bytes := stride.toNat * height.toNat * bpp.toNat
    (h.validate = .ok () ↔ bytes ≤ 2 ^ 32 - 1) ∧
      (decode h.encode = .ok h ↔ bytes ≤ 2 ^ 32 - 1) ∧
      (stride = 0 ∨ height = 0 ∨ bpp = 0 → h.validate = .ok () ∧ decode h.encode = .ok h) ∧
      (2 ^ 32 - 1 < bytes → h.validate = .error (.sizeMismatch 4294967295 bytes) ∧
        decode h.encode = .error (.sizeMismatch 4294967295 bytes)) ∧
      (stride.toUInt64 * height.toUInt64 * bpp.toUInt64).toNat = bytes := by
  intro h bytes
  have hvalid (hle : bytes ≤ 2 ^ 32 - 1) : h.validate = .ok () ∧ decode h.encode = .ok h :=
    ofLayout_fits hle
  have hreported (hlt : 2 ^ 32 - 1 < bytes) :
      h.validate = .error (.sizeMismatch 4294967295 bytes) ∧
        decode h.encode = .error (.sizeMismatch 4294967295 bytes) :=
    ofLayout_exceeds hlt
  refine ⟨⟨fun hv => ?_, fun hle => (hvalid hle).1⟩, ⟨fun hd => ?_, fun hle => (hvalid hle).2⟩,
    fun hzero => hvalid ?_, hreported, layoutSize_toUInt64 h hfits⟩
  · refine Nat.le_of_not_lt fun hlt => ?_
    rw [(hreported hlt).1] at hv
    cases hv
  · refine Nat.le_of_not_lt fun hlt => ?_
    rw [(hreported hlt).2] at hd
    cases hd
  · have hnone : bytes = 0 := by
      rcases hzero with rfl | rfl | rfl <;> simp [bytes]
    exact hnone.trans_le (Nat.zero_le _)

/-- The pixels alone are too many for a word, and take no bytes at all, or one each. -/
theorem derived_valid_iff_saturated :
    let none := ofLayout .unknown 65536 65536 65536 0
    let one := ofLayout .unknown 65536 65536 65536 1
    none.layoutSize < 2 ^ 64 ∧ none.validate = .ok () ∧ decode none.encode = .ok none ∧
      one.layoutSize < 2 ^ 64 ∧
      decode one.encode = .error (.sizeMismatch 4294967295 4294967296) := by
  intro none one
  have hnone : none.layoutSize < 2 ^ 64 := by decide
  have hone : one.layoutSize < 2 ^ 64 := by decide
  obtain ⟨_, _, hempty, _⟩ := derived_valid_iff .unknown 65536 65536 65536 0 hnone
  obtain ⟨_, _, _, hlarge, _⟩ := derived_valid_iff .unknown 65536 65536 65536 1 hone
  obtain ⟨hvalid, hreread⟩ := hempty (.inr (.inr rfl))
  exact ⟨hnone, hvalid, hreread, hone, (hlarge (by decide)).2⟩

end FrameHeader

end ScreenCapture
