import ScreenCapture.Proofs.Numerals
import ScreenCapture.Proofs.Settings

namespace ScreenCapture

namespace Mirroring

/-- What a description says, in numbers. -/
@[ext] structure Numbers where
  realWidth : Nat
  realHeight : Nat
  virtualWidth : Nat
  virtualHeight : Nat
  degrees : Nat

/-- The numbers that describe something: sides of a word, none of them zero, and quarter turns. -/
structure Numbers.Admitted (n : Numbers) : Prop where
  realWidth : n.realWidth ≠ 0 ∧ n.realWidth ≤ 4294967295
  realHeight : n.realHeight ≠ 0 ∧ n.realHeight ≤ 4294967295
  virtualWidth : n.virtualWidth ≠ 0 ∧ n.virtualWidth ≤ 4294967295
  virtualHeight : n.virtualHeight ≠ 0 ∧ n.virtualHeight ≤ 4294967295
  degrees : n.degrees = 0 ∨ n.degrees = 90 ∨ n.degrees = 180 ∨ n.degrees = 270

def numbers (p : Mirroring) : Numbers :=
  ⟨p.realWidth.toNat, p.realHeight.toNat, p.virtualWidth.toNat, p.virtualHeight.toNat,
    p.orientation.degrees⟩

/-- The parts of a text between its separators. -/
@[ext] structure Parts where
  realWidth : List Char
  realHeight : List Char
  virtualWidth : List Char
  virtualHeight : List Char
  degrees : List Char

namespace Parts

def chars (q : Parts) : List Char :=
  q.realWidth ++ 'x' :: q.realHeight ++ '@' :: q.virtualWidth ++ 'x' :: q.virtualHeight ++
    '/' :: q.degrees

/-- Each part is the text of its number, with blanks around it. -/
structure Spell (q : Parts) (n : Numbers) : Prop where
  realWidth : Text.Spells q.realWidth n.realWidth
  realHeight : Text.Spells q.realHeight n.realHeight
  virtualWidth : Text.Spells q.virtualWidth n.virtualWidth
  virtualHeight : Text.Spells q.virtualHeight n.virtualHeight
  degrees : Text.Spells q.degrees n.degrees

/-- Each part is digits alone, without zeros in front. -/
structure Plain (q : Parts) : Prop where
  realWidth : Text.Plain q.realWidth
  realHeight : Text.Plain q.realHeight
  virtualWidth : Text.Plain q.virtualWidth
  virtualHeight : Text.Plain q.virtualHeight
  degrees : Text.Plain q.degrees

end Parts

theorem readWord?_eq_some_iff {s : List Char} {w : UInt32} :
    readWord? s = some w ↔ Text.Spells s w.toNat := by
  rw [Text.spells_iff, readWord?]
  constructor
  · intro h
    split at h
    next n hread =>
      obtain ⟨hn, hle⟩ := Text.readUnsigned_eq_ok_iff.mp hread
      rw [← Option.some.inj h, UInt32.toNat_ofNat_of_lt' (Nat.lt_succ_of_le hle)]
      exact hn
    next => cases h
  · intro h
    rw [Text.readUnsigned_eq_ok_iff.mpr ⟨h, Nat.le_of_lt_succ w.toNat_lt⟩]
    simp

/-- No part of a description holds a separator. -/
theorem not_mem_of_spells {s : List Char} {n : Nat} (h : Text.Spells s n) {c : Char}
    (hc : c = 'x' ∨ c = '@' ∨ c = '/') : c ∉ s := by
  intro hmem
  rcases hc with rfl | rfl | rfl
  · exact absurd (h.mem hmem) (by decide)
  · exact absurd (h.mem hmem) (by decide)
  · exact absurd (h.mem hmem) (by decide)

theorem splitAt?_sides {a b : List Char} {n : Nat} (ha : Text.Spells a n) :
    Text.splitAt? 'x' (a ++ 'x' :: b) = some (a, b) :=
  Text.splitAt?_eq_some.mpr ⟨rfl, not_mem_of_spells ha (.inl rfl)⟩

/-- Two numbers and what is between them hold no separator of another kind. -/
theorem not_mem_sides {a b : List Char} {n m : Nat} (ha : Text.Spells a n) (hb : Text.Spells b m)
    {c : Char} (hc : c = '@' ∨ c = '/') : c ∉ a ++ 'x' :: b := by
  rw [List.mem_append, List.mem_cons, not_or, not_or]
  refine ⟨not_mem_of_spells ha (.inr hc), ?_, not_mem_of_spells hb (.inr hc)⟩
  rcases hc with rfl | rfl
  · decide
  · decide

theorem Parts.Spell.splitAt? {q : Parts} {n : Numbers} (h : q.Spell n) :
    Text.splitAt? '@' q.chars = some (q.realWidth ++ 'x' :: q.realHeight,
        q.virtualWidth ++ 'x' :: q.virtualHeight ++ '/' :: q.degrees) ∧
      Text.splitAt? '/' (q.virtualWidth ++ 'x' :: q.virtualHeight ++ '/' :: q.degrees) =
        some (q.virtualWidth ++ 'x' :: q.virtualHeight, q.degrees) := by
  rw [Text.splitAt?_eq_some, Text.splitAt?_eq_some]
  refine ⟨⟨?_, not_mem_sides h.realWidth h.realHeight (.inl rfl)⟩, rfl,
    not_mem_sides h.virtualWidth h.virtualHeight (.inr rfl)⟩
  simp only [Parts.chars, List.append_assoc, List.cons_append]

theorem Parts.Spell.numbers_eq {q : Parts} {n m : Numbers} (hn : q.Spell n) (hm : q.Spell m) :
    n = m :=
  Numbers.ext (hn.realWidth.unique hm.realWidth) (hn.realHeight.unique hm.realHeight)
    (hn.virtualWidth.unique hm.virtualWidth) (hn.virtualHeight.unique hm.virtualHeight)
    (hn.degrees.unique hm.degrees)

/-- A text is taken apart in one way only. -/
theorem Parts.Spell.unique {q r : Parts} {n m : Numbers} (hq : q.Spell n) (hr : r.Spell m)
    (h : q.chars = r.chars) : q = r ∧ n = m := by
  obtain ⟨hat, hslash⟩ := hq.splitAt?
  obtain ⟨hat', hslash'⟩ := hr.splitAt?
  rw [h, hat'] at hat
  obtain ⟨hreal, hrest⟩ := Prod.mk.inj (Option.some.inj hat)
  rw [← hrest, hslash'] at hslash
  obtain ⟨hvirtual, hdegrees⟩ := Prod.mk.inj (Option.some.inj hslash)
  have hsides := splitAt?_sides hq.realWidth (b := q.realHeight)
  have hsides' := splitAt?_sides hq.virtualWidth (b := q.virtualHeight)
  rw [← hreal, splitAt?_sides hr.realWidth] at hsides
  rw [← hvirtual, splitAt?_sides hr.virtualWidth] at hsides'
  obtain ⟨h1, h2⟩ := Prod.mk.inj (Option.some.inj hsides)
  obtain ⟨h3, h4⟩ := Prod.mk.inj (Option.some.inj hsides')
  obtain rfl : q = r := Parts.ext h1.symm h2.symm h3.symm h4.symm hdegrees.symm
  exact ⟨rfl, hq.numbers_eq hr⟩

theorem readSize?_eq_some_iff {s : List Char} {width height : UInt32} :
    readSize? s = some (width, height) ↔ (width ≠ 0 ∧ height ≠ 0) ∧ ∃ a b, s = a ++ 'x' :: b ∧
      Text.Spells a width.toNat ∧ Text.Spells b height.toNat := by
  constructor
  · intro h
    obtain ⟨⟨a, b⟩, hsplit, h'⟩ := Option.bind_eq_some_iff.mp h
    obtain ⟨w, hw, h'⟩ := Option.bind_eq_some_iff.mp h'
    obtain ⟨v, hv, h'⟩ := Option.bind_eq_some_iff.mp h'
    obtain ⟨hsides, he⟩ := Option.ite_none_left_eq_some.mp h'
    cases he
    exact ⟨not_or.mp hsides, a, b, (Text.splitAt?_eq_some.mp hsplit).1, readWord?_eq_some_iff.mp hw,
      readWord?_eq_some_iff.mp hv⟩
  · rintro ⟨hsides, a, b, rfl, ha, hb⟩
    simp only [readSize?, splitAt?_sides ha, readWord?_eq_some_iff.mpr ha,
      readWord?_eq_some_iff.mpr hb, Option.bind_some, bind]
    rw [if_neg (not_or.mpr hsides)]

theorem admitted_iff (p : Mirroring) : p.numbers.Admitted ↔
    (p.realWidth ≠ 0 ∧ p.realHeight ≠ 0) ∧ p.virtualWidth ≠ 0 ∧ p.virtualHeight ≠ 0 := by
  have hside (w : UInt32) : w.toNat ≠ 0 ∧ w.toNat ≤ 4294967295 ↔ w ≠ 0 := by
    have hlt := w.toNat_lt
    rw [ne_eq, ne_eq, ← UInt32.toNat_inj, UInt32.toNat_zero]
    omega
  have hdegrees : p.orientation.degrees = 0 ∨ p.orientation.degrees = 90 ∨
      p.orientation.degrees = 180 ∨ p.orientation.degrees = 270 := by
    cases p.orientation <;> decide
  constructor
  · intro h
    exact ⟨⟨(hside _).mp h.realWidth, (hside _).mp h.realHeight⟩, (hside _).mp h.virtualWidth,
      (hside _).mp h.virtualHeight⟩
  · rintro ⟨⟨h1, h2⟩, h3, h4⟩
    exact ⟨(hside _).mpr h1, (hside _).mpr h2, (hside _).mpr h3, (hside _).mpr h4, hdegrees⟩

/-- A text is read just as its parts say. -/
theorem read?_eq_some_iff {s : List Char} {p : Mirroring} :
    read? s = some p ↔
      ∃ q : Parts, s = q.chars ∧ q.Spell p.numbers ∧ p.numbers.Admitted := by
  constructor
  · intro h
    obtain ⟨⟨real, rest⟩, hat, h⟩ := Option.bind_eq_some_iff.mp h
    obtain ⟨⟨size, degrees⟩, hslash, h⟩ := Option.bind_eq_some_iff.mp h
    obtain ⟨⟨width, height⟩, hreal, h⟩ := Option.bind_eq_some_iff.mp h
    obtain ⟨⟨width', height'⟩, hvirtual, h⟩ := Option.bind_eq_some_iff.mp h
    obtain ⟨w, hword, h⟩ := Option.bind_eq_some_iff.mp h
    obtain ⟨o, horientation, he⟩ := Option.bind_eq_some_iff.mp h
    cases he
    obtain ⟨hsides, a, b, rfl, ha, hb⟩ := readSize?_eq_some_iff.mp hreal
    obtain ⟨hsides', c, d, rfl, hc, hd⟩ := readSize?_eq_some_iff.mp hvirtual
    obtain ⟨rfl, -⟩ := Text.splitAt?_eq_some.mp hat
    obtain ⟨rfl, -⟩ := Text.splitAt?_eq_some.mp hslash
    have hturn := Orientation.degrees_of_ofDegrees? horientation
    refine ⟨⟨a, b, c, d, degrees⟩, ?_, ⟨ha, hb, hc, hd, ?_⟩, (admitted_iff _).mpr ⟨hsides, hsides'⟩⟩
    · simp only [Parts.chars, List.append_assoc, List.cons_append]
    · show Text.Spells degrees o.degrees
      rw [hturn]
      exact readWord?_eq_some_iff.mp hword
  · rintro ⟨q, rfl, h, hadmitted⟩
    obtain ⟨hreal, hvirtual⟩ := (admitted_iff p).mp hadmitted
    obtain ⟨hat, hslash⟩ := h.splitAt?
    have hsize := readSize?_eq_some_iff.mpr ⟨hreal, _, _, rfl, h.realWidth, h.realHeight⟩
    have hsize' := readSize?_eq_some_iff.mpr ⟨hvirtual, _, _, rfl, h.virtualWidth, h.virtualHeight⟩
    have hturn : (UInt32.ofNat p.orientation.degrees).toNat = p.orientation.degrees := by
      cases p.orientation <;> rfl
    have hword : readWord? q.degrees = some (UInt32.ofNat p.orientation.degrees) := by
      rw [readWord?_eq_some_iff, hturn]
      exact h.degrees
    simp only [read?, hat, hslash, hsize, hsize', hword, hturn, Orientation.ofDegrees?_degrees,
      Option.bind_some, bind]

theorem parse_eq_ok_iff {s : String} {p : Mirroring} : parse s = .ok p ↔
    ∃ q : Parts, s.toList = q.chars ∧ q.Spell p.numbers ∧ p.numbers.Admitted := by
  rw [← read?_eq_some_iff, parse]
  split
  next r hread => simp [hread]
  next hread => simp [hread]

theorem parse_eq_error {s : String} (h : ∀ p, parse s ≠ .ok p) :
    parse s = .error (.projection s) := by
  unfold parse at h ⊢
  split
  next r hread => exact absurd (by rw [hread]) (h r)
  next => rfl

theorem exists_of_admitted {n : Numbers} (h : n.Admitted) : ∃ p : Mirroring, p.numbers = n := by
  obtain ⟨a, b, c, d, turn⟩ := n
  obtain ⟨⟨_, h1⟩, ⟨_, h2⟩, ⟨_, h3⟩, ⟨_, h4⟩, hd⟩ := h
  have hword {k : Nat} (hk : k ≤ 4294967295) : (UInt32.ofNat k).toNat = k :=
    UInt32.toNat_ofNat_of_lt' (Nat.lt_succ_of_le hk)
  obtain ⟨o, ho⟩ : ∃ o : Orientation, o.degrees = turn := by
    rcases hd with h | h | h | h
    · exact ⟨.rotation0, h.symm⟩
    · exact ⟨.rotation90, h.symm⟩
    · exact ⟨.rotation180, h.symm⟩
    · exact ⟨.rotation270, h.symm⟩
  refine ⟨⟨.ofNat a, .ofNat b, .ofNat c, .ofNat d, o⟩, ?_⟩
  rw [numbers, hword h1, hword h2, hword h3, hword h4, ho]

/-- The parts of the text that a description is written as. -/
def parts (p : Mirroring) : Parts :=
  ⟨Text.decimal p.realWidth.toNat, Text.decimal p.realHeight.toNat,
    Text.decimal p.virtualWidth.toNat, Text.decimal p.virtualHeight.toNat,
    Text.decimal p.orientation.degrees⟩

theorem toList_text (p : Mirroring) : p.text.toList = p.parts.chars := String.toList_ofList

theorem parts_plain (p : Mirroring) : p.parts.Plain :=
  ⟨Text.plain_decimal _, Text.plain_decimal _, Text.plain_decimal _, Text.plain_decimal _,
    Text.plain_decimal _⟩

theorem parts_spell (p : Mirroring) : p.parts.Spell p.numbers :=
  ⟨Text.spells_decimal _, Text.spells_decimal _, Text.spells_decimal _, Text.spells_decimal _,
    Text.spells_decimal _⟩

theorem Parts.Plain.eq {q r : Parts} {n : Numbers} (hq : q.Plain) (hr : r.Plain) (hn : q.Spell n)
    (hm : r.Spell n) : q = r :=
  Parts.ext (hq.realWidth.eq_of_spells hr.realWidth hn.realWidth hm.realWidth)
    (hq.realHeight.eq_of_spells hr.realHeight hn.realHeight hm.realHeight)
    (hq.virtualWidth.eq_of_spells hr.virtualWidth hn.virtualWidth hm.virtualWidth)
    (hq.virtualHeight.eq_of_spells hr.virtualHeight hn.virtualHeight hm.virtualHeight)
    (hq.degrees.eq_of_spells hr.degrees hn.degrees hm.degrees)

/-- A description is read from its text, unless a side is zero. -/
theorem parse_text_iff (p : Mirroring) : parse p.text = .ok p ↔ p.numbers.Admitted := by
  rw [parse_eq_ok_iff]
  constructor
  · rintro ⟨_, _, _, h⟩
    exact h
  · exact fun h => ⟨p.parts, toList_text p, parts_spell p, h⟩

/-- A text describes something just when it can be taken apart into numbers that are admitted, which
can be done in one way only, and it describes what they say. Any other is refused. What is written
is read again, unless a side is zero, and it is the plainest of the texts that say the same. -/
theorem parse_spelled (s : String) :
    ((∃ p, parse s = .ok p) ↔
        ∃ (q : Parts) (n : Numbers), s.toList = q.chars ∧ q.Spell n ∧ n.Admitted) ∧
      (∀ (q r : Parts) (n m : Numbers), s.toList = q.chars → q.Spell n → s.toList = r.chars →
        r.Spell m → q = r ∧ n = m) ∧
      (∀ p (q : Parts) (n : Numbers), parse s = .ok p → s.toList = q.chars → q.Spell n →
        p.numbers = n) ∧
      ((∀ p, parse s ≠ .ok p) → parse s = .error (.projection s)) ∧
      (∀ p, parse p.text = .ok p ↔
        (p.realWidth ≠ 0 ∧ p.realHeight ≠ 0) ∧ p.virtualWidth ≠ 0 ∧ p.virtualHeight ≠ 0) ∧
      ∀ p, parse s = .ok p → parse p.text = .ok p ∧
        ∃ q : Parts, p.text.toList = q.chars ∧ q.Plain ∧ q.Spell p.numbers ∧
          ∀ r : Parts, r.Plain → r.Spell p.numbers → r = q := by
  refine ⟨⟨?_, ?_⟩, ?_, ?_, parse_eq_error, fun p => (parse_text_iff p).trans (admitted_iff p), ?_⟩
  · rintro ⟨p, hp⟩
    obtain ⟨q, hs, hq, hn⟩ := parse_eq_ok_iff.mp hp
    exact ⟨q, p.numbers, hs, hq, hn⟩
  · rintro ⟨q, n, hs, hq, hn⟩
    obtain ⟨p, rfl⟩ := exists_of_admitted hn
    exact ⟨p, parse_eq_ok_iff.mpr ⟨q, hs, hq, hn⟩⟩
  · intro q r n m hsq hq hsr hr
    exact hq.unique hr (hsq.symm.trans hsr)
  · intro p q n hp hs hq
    obtain ⟨r, hr, hspell, -⟩ := parse_eq_ok_iff.mp hp
    exact (hspell.unique hq (hr.symm.trans hs)).2
  · intro p hp
    obtain ⟨_, _, _, hn⟩ := parse_eq_ok_iff.mp hp
    exact ⟨(parse_text_iff p).mpr hn, p.parts, toList_text p, parts_plain p, parts_spell p,
      fun r hplain hspell => hplain.eq (parts_plain p) hspell (parts_spell p)⟩

/-- Blanks, a sign and zeros in front are read over, and not written again. -/
theorem parse_spelled_blanks :
    let q : Parts := ⟨[' ', '+', '0', '8', '\u00a0'], ['3'], ['1'], ['0', '0', '0', '2'],
      ['\t', '0', '9', '0']⟩
    let r : Parts := ⟨['8'], ['3'], ['1'], ['2'], ['9', '0']⟩
    let n : Numbers := ⟨8, 3, 1, 2, 90⟩
    q.Spell n ∧ n.Admitted ∧ ∃ p, parse (String.ofList q.chars) = .ok p ∧ p.numbers = n ∧
      parse p.text = .ok p ∧ p.text.toList = r.chars := by
  intro q r n
  have hword (w : UInt32) {s : List Char} (h : readWord? s = some w) : Text.Spells s w.toNat :=
    readWord?_eq_some_iff.mp h
  have hq : q.Spell n := ⟨hword 8 (by decide), hword 3 (by decide), hword 1 (by decide),
    hword 2 (by decide), hword 90 (by decide)⟩
  have hr : r.Spell n := ⟨hword 8 (by decide), hword 3 (by decide), hword 1 (by decide),
    hword 2 (by decide), hword 90 (by decide)⟩
  have hdigits {s : List Char} (hne : s ≠ []) (h : s.all Char.isDigit = true)
      (h0 : s.head? = some '0' → s = ['0']) : Text.Plain s :=
    ⟨hne, List.all_eq_true.mp h, h0⟩
  have hplain : r.Plain :=
    ⟨hdigits (by decide) rfl (by decide), hdigits (by decide) rfl (by decide),
      hdigits (by decide) rfl (by decide), hdigits (by decide) rfl (by decide),
      hdigits (by decide) rfl (by decide)⟩
  have hn : n.Admitted := ⟨by decide, by decide, by decide, by decide, by decide⟩
  obtain ⟨haccepts, -, hvalues, -, -, hwritten⟩ := parse_spelled (String.ofList q.chars)
  obtain ⟨p, hp⟩ := haccepts.mpr ⟨q, n, String.toList_ofList, hq, hn⟩
  have hpn := hvalues p q n hp String.toList_ofList hq
  obtain ⟨hread, t, htext, -, -, hplainest⟩ := hwritten p hp
  refine ⟨hq, hn, p, hp, hpn, hread, ?_⟩
  rw [htext, hplainest r hplain (hpn ▸ hr)]

end Mirroring

end ScreenCapture
