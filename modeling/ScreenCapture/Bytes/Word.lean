namespace ScreenCapture

/-- The four bytes of a word, the least significant first. -/
def Word.toBytes (w : UInt32) : List UInt8 :=
  [UInt8.ofNat w.toNat, UInt8.ofNat (w.toNat / 256), UInt8.ofNat (w.toNat / 65536),
    UInt8.ofNat (w.toNat / 16777216)]

/-- The word with the given bytes, the least significant first. -/
def Word.ofBytes (a b c d : UInt8) : UInt32 :=
  UInt32.ofNat (a.toNat + 256 * b.toNat + 65536 * c.toNat + 16777216 * d.toNat)

/-- Splits a word off the front of a byte string. -/
def Word.take? : List UInt8 → Option (UInt32 × List UInt8)
  | a :: b :: c :: d :: rest => some (ofBytes a b c d, rest)
  | _ => none

theorem Word.length_toBytes (w : UInt32) : (toBytes w).length = 4 := rfl

theorem Word.toNat_ofBytes (a b c d : UInt8) : (ofBytes a b c d).toNat =
    a.toNat + 256 * b.toNat + 65536 * c.toNat + 16777216 * d.toNat := by
  have ha := a.toNat_lt
  have hb := b.toNat_lt
  have hc := c.toNat_lt
  have hd := d.toNat_lt
  simp only [ofBytes, UInt32.toNat_ofNat']
  omega

theorem Word.take?_toBytes (w : UInt32) (rest : List UInt8) :
    take? (toBytes w ++ rest) = some (w, rest) := by
  have hw := w.toNat_lt
  have he : ofBytes (UInt8.ofNat w.toNat) (UInt8.ofNat (w.toNat / 256))
      (UInt8.ofNat (w.toNat / 65536)) (UInt8.ofNat (w.toNat / 16777216)) = w := by
    apply UInt32.toNat_inj.mp
    simp only [toNat_ofBytes, UInt8.toNat_ofNat']
    omega
  simp only [toBytes, take?, List.cons_append, List.nil_append, he]

theorem Word.eq_toBytes_of_take? {bytes rest : List UInt8} {w : UInt32}
    (h : take? bytes = some (w, rest)) : bytes = toBytes w ++ rest := by
  unfold take? at h
  split at h
  next a b c d tail =>
    have ha := a.toNat_lt
    have hb := b.toNat_lt
    have hc := c.toNat_lt
    have hd := d.toNat_lt
    obtain ⟨rfl, rfl⟩ := Prod.mk.inj (Option.some.inj h)
    have hn := toNat_ofBytes a b c d
    have h0 : UInt8.ofNat (ofBytes a b c d).toNat = a := by
      apply UInt8.toNat_inj.mp
      simp only [UInt8.toNat_ofNat']
      omega
    have h1 : UInt8.ofNat ((ofBytes a b c d).toNat / 256) = b := by
      apply UInt8.toNat_inj.mp
      simp only [UInt8.toNat_ofNat']
      omega
    have h2 : UInt8.ofNat ((ofBytes a b c d).toNat / 65536) = c := by
      apply UInt8.toNat_inj.mp
      simp only [UInt8.toNat_ofNat']
      omega
    have h3 : UInt8.ofNat ((ofBytes a b c d).toNat / 16777216) = d := by
      apply UInt8.toNat_inj.mp
      simp only [UInt8.toNat_ofNat']
      omega
    simp [toBytes, h0, h1, h2, h3]
  next => simp at h

theorem Word.take?_eq_none {bytes : List UInt8} : take? bytes = none ↔ bytes.length < 4 := by
  unfold take?
  split
  · simp
  next h =>
    simp only [true_iff]
    match bytes, h with
    | [], _ => simp
    | [_], _ => simp
    | [_, _], _ => simp
    | [_, _, _], _ => simp
    | a :: b :: c :: d :: r, h => exact absurd rfl (h a b c d r)

end ScreenCapture
