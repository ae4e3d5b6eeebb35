import ScreenCapture.Json.Read
import ScreenCapture.Json.Write
import ScreenCapture.Proofs.Numerals

namespace ScreenCapture.Json

/-- Blanks between the parts of a text. -/
def Gap (s : List Char) : Prop := ∀ c ∈ s, isSpace c = true

/-- Four hexadecimal digits, the first of them for the most. -/
inductive UnitText : Nat → List Char → Prop
  | mk {a b c d : Char} {w x y z : Nat} : hexDigit? a = some w → hexDigit? b = some x →
      hexDigit? c = some y → hexDigit? d = some z →
      UnitText (((w * 16 + x) * 16 + y) * 16 + z) [a, b, c, d]

/-- Ways to write a character after a backslash. Two units give one past the first 65536. -/
inductive EscapeText (c : Char) : List Char → Prop
  | short {d : Char} : simpleEscape? d = some c → EscapeText c [d]
  | unit {t : List Char} : UnitText c.toNat t → EscapeText c ('u' :: t)
  | pair {high low : Nat} {t u : List Char} : high < 0x400 → low < 0x400 →
      c.toNat = high * 0x400 + low + 0x10000 → UnitText (0xD800 + high) t →
      UnitText (0xDC00 + low) u → EscapeText c ('u' :: t ++ '\\' :: 'u' :: u)

/-- Ways to write a character between quotes. -/
inductive CharText (c : Char) : List Char → Prop
  | plain : c ≠ '"' → c ≠ '\\' → 32 ≤ c.toNat → CharText c [c]
  | escape {t : List Char} : EscapeText c t → CharText c ('\\' :: t)

/-- Ways to write characters between quotes, each of them in its own way. -/
inductive StringText : List Char → List Char → Prop
  | nil : StringText [] []
  | cons {c : Char} {cs t ts : List Char} : CharText c t → StringText cs ts →
      StringText (c :: cs) (t ++ ts)

theorem skipSpace_append {gap s : List Char} (hg : Gap gap) {c : Char} (hs : s.head? = some c)
    (hc : isSpace c = false) : skipSpace (gap ++ s) = s := by
  obtain ⟨cs, rfl⟩ := List.head?_eq_some_iff.mp hs
  rw [skipSpace, List.dropWhile_append_of_pos hg, List.dropWhile_cons_of_neg (by simp [hc])]

theorem hexUnit_append {n : Nat} {t : List Char} (h : UnitText n t) (rest : List Char) :
    hexUnit (t ++ rest) = .ok (n, rest) := by
  obtain @⟨a, b, c, d, w, x, y, z, ha, hb, hc, hd⟩ := h
  have hbytes : ¬ byteCount [a, b, c, d] < 4 := by
    have := a.utf8Size_pos
    have := b.utf8Size_pos
    have := c.utf8Size_pos
    have := d.utf8Size_pos
    simp [byteCount]
    omega
  simp only [hexUnit, List.cons_append, List.nil_append, List.take_succ_cons, List.take_zero,
    if_neg hbytes, ha, hb, hc, hd]

theorem isTrailing_toNat (c : Char) : isTrailing c.toNat = false := by
  have hvalid : c.toNat < 0xD800 ∨ 0xDFFF < c.toNat ∧ c.toNat < 0x110000 := c.valid
  simp only [isTrailing, Bool.and_eq_false_iff, decide_eq_false_iff_not]
  omega

theorem isLeading_toNat (c : Char) : isLeading c.toNat = false := by
  have hvalid : c.toNat < 0xD800 ∨ 0xDFFF < c.toNat ∧ c.toNat < 0x110000 := c.valid
  simp only [isLeading, Bool.and_eq_false_iff, decide_eq_false_iff_not]
  omega

theorem unitEscape_unit {c : Char} {t : List Char} (h : UnitText c.toNat t) (rest : List Char) :
    unitEscape (t ++ rest) = .ok (c, rest) := by
  simp only [unitEscape, hexUnit_append h, isTrailing_toNat, isLeading_toNat, Bool.false_eq_true,
    if_false, Char.ofNat_toNat]

theorem unitEscape_pair {c : Char} {high low : Nat} {t u : List Char} (hh : high < 0x400)
    (hl : low < 0x400) (hc : c.toNat = high * 0x400 + low + 0x10000)
    (ht : UnitText (0xD800 + high) t) (hu : UnitText (0xDC00 + low) u) (rest : List Char) :
    unitEscape (t ++ ('\\' :: 'u' :: u ++ rest)) = .ok (c, rest) := by
  have htrailing : isTrailing (0xD800 + high) = false := by
    simp only [isTrailing, Bool.and_eq_false_iff, decide_eq_false_iff_not]
    omega
  have hleading : isLeading (0xD800 + high) = true := by
    simp only [isLeading, Bool.and_eq_true, decide_eq_true_eq]
    omega
  have hsecond : isTrailing (0xDC00 + low) = true := by
    simp only [isTrailing, Bool.and_eq_true, decide_eq_true_eq]
    omega
  simp only [unitEscape, hexUnit_append ht, htrailing, hleading, Bool.false_eq_true, if_false,
    if_true, List.cons_append, trailingUnit, hexUnit_append hu, hsecond, Nat.add_sub_cancel_left,
    ← hc, Char.ofNat_toNat]

theorem escape_append {c : Char} {t : List Char} (h : EscapeText c t) (rest : List Char) :
    escape (t ++ rest) = .ok (c, rest) := by
  cases h with
  | short hd => simp only [escape, List.cons_append, List.nil_append, hd]
  | unit ht => exact unitEscape_unit ht rest
  | pair hh hl hc ht hu =>
    rw [List.append_assoc]
    exact unitEscape_pair hh hl hc ht hu rest

theorem stringBody_append {cs t : List Char} (h : StringText cs t) {fuel : Nat}
    (hf : t.length < fuel) (rest : List Char) :
    stringBody fuel (t ++ '"' :: rest) = .ok (cs, rest) := by
  induction h generalizing fuel with
  | nil =>
    obtain ⟨fuel, rfl⟩ := Nat.exists_eq_succ_of_ne_zero (Nat.ne_zero_of_lt hf)
    rfl
  | @cons c cs t ts hc _ ih =>
    obtain ⟨fuel, rfl⟩ := Nat.exists_eq_succ_of_ne_zero (Nat.ne_zero_of_lt hf)
    rw [List.length_append] at hf
    rw [List.append_assoc]
    cases hc with
    | plain hquote hslash hcontrol =>
      rw [List.length_singleton] at hf
      rw [List.singleton_append, stringBody, if_neg hquote, if_neg hslash,
        if_neg (Nat.not_lt.mpr hcontrol), ih (by omega)]
    | escape ht =>
      rw [List.length_cons] at hf
      have hrest := @ih fuel (by omega)
      rw [List.cons_append, stringBody, if_neg (by decide), if_pos rfl]
      simp only [escape_append ht, hrest]

theorem stringRest_append {s : String} {t : List Char} (h : StringText s.toList t)
    (rest : List Char) : stringRest (t ++ '"' :: rest) = .ok (s, rest) := by
  rw [stringRest, stringBody_append h (by simp) rest]
  simp [Except.map]

theorem skipEscape_unit {n : Nat} {t : List Char} (h : UnitText n t) (rest : List Char) :
    skipEscape ('u' :: (t ++ rest)) = .ok rest := by
  have hu : simpleEscape? 'u' = none := rfl
  simp only [skipEscape, hu, if_true, hexUnit_append h]

theorem skipStringBody_append {cs t : List Char} (h : StringText cs t) {fuel : Nat}
    (hf : t.length < fuel) (rest : List Char) :
    skipStringBody fuel (t ++ '"' :: rest) = .ok rest := by
  induction h generalizing fuel with
  | nil =>
    obtain ⟨fuel, rfl⟩ := Nat.exists_eq_succ_of_ne_zero (Nat.ne_zero_of_lt hf)
    rfl
  | @cons c cs t ts hc _ ih =>
    obtain ⟨fuel, rfl⟩ := Nat.exists_eq_succ_of_ne_zero (Nat.ne_zero_of_lt hf)
    rw [List.length_append] at hf
    rw [List.append_assoc]
    cases hc with
    | plain hquote hslash hcontrol =>
      rw [List.length_singleton] at hf
      rw [List.singleton_append, skipStringBody, if_neg hquote, if_neg hslash,
        if_neg (Nat.not_lt.mpr hcontrol), ih (by omega)]
    | escape ht =>
      rw [List.length_cons] at hf
      rw [List.cons_append, skipStringBody, if_neg (by decide), if_pos rfl]
      cases ht with
      | short hd =>
        simp only [skipEscape, List.cons_append, List.nil_append, hd]
        exact ih (by omega)
      | unit ht =>
        rw [List.cons_append, skipEscape_unit ht]
        exact ih (by omega)
      | pair _ _ _ ht hu =>
        -- the second unit is passed over as an escape of its own
        simp only [List.length_append, List.length_cons] at hf
        obtain ⟨fuel, rfl⟩ := Nat.exists_eq_succ_of_ne_zero (n := fuel) (by omega)
        have hrest := @ih fuel (by omega)
        simp only [List.cons_append, List.append_assoc, skipEscape_unit ht]
        rw [skipStringBody, if_neg (by decide), if_pos rfl]
        simp only [skipEscape_unit hu, hrest]

/-- The two digits that a control character is written with, after two zeros. -/
theorem hexDigit?_hex {n : Nat} (h : n < 32) : ∃ a b,
    (if n < 16 then ['0', '0', '0'] ++ Text.hex n else ['0', '0'] ++ Text.hex n) =
      ['0', '0', a, b] ∧ hexDigit? a = some (n / 16) ∧ hexDigit? b = some (n % 16) := by
  have hdigit : ∀ d < 16, Nat.toDigits 16 d = [Nat.digitChar d] ∧
      Nat.toDigits 16 (16 + d) = ['1', Nat.digitChar d] ∧
        hexDigit? (Nat.digitChar d) = some d := by decide
  obtain ⟨hlow, hhigh, hread⟩ := hdigit (n % 16) (Nat.mod_lt n (by decide))
  split
  next hn =>
    rw [Nat.mod_eq_of_lt hn] at hlow hread ⊢
    exact ⟨'0', _, congrArg _ hlow, by rw [Nat.div_eq_of_lt hn]; rfl, hread⟩
  next hn =>
    have hsum : 16 + n % 16 = n := by omega
    rw [hsum] at hhigh
    exact ⟨'1', _, congrArg _ hhigh, by rw [show n / 16 = 1 by omega]; rfl, hread⟩

theorem escapeText_control {c : Char} (h : c.toNat < 32) {t : List Char}
    (ht : t = if c.toNat < 16 then ['0', '0', '0'] ++ Text.hex c.toNat
      else ['0', '0'] ++ Text.hex c.toNat) : EscapeText c ('u' :: t) := by
  obtain ⟨a, b, heq, ha, hb⟩ := hexDigit?_hex h
  rw [ht, heq]
  have hunit : UnitText _ ['0', '0', a, b] := .mk rfl rfl ha hb
  have hvalue : ((0 * 16 + 0) * 16 + c.toNat / 16) * 16 + c.toNat % 16 = c.toNat := by omega
  exact .unit (hvalue ▸ hunit)

theorem charText_escaped (c : Char) : CharText c (escaped c) := by
  unfold escaped
  split
  next h => exact .escape (.short (by rw [h]; rfl))
  split
  next h => exact .escape (.short (by rw [h]; rfl))
  split
  next h => exact .escape (.short (by rw [h]; rfl))
  split
  next h => exact .escape (.short (by rw [h]; rfl))
  split
  next h => exact .escape (.short (by rw [h]; rfl))
  split
  next h => exact .escape (.short (by rw [h]; rfl))
  split
  next h => exact .escape (.short (by rw [h]; rfl))
  split
  next h => exact .escape (escapeText_control (by omega) (if_pos h).symm)
  split
  next hn h => exact .escape (escapeText_control h (if_neg hn).symm)
  next hquote hslash _ _ _ _ _ _ hcontrol => exact .plain hquote hslash (Nat.not_lt.mp hcontrol)

theorem stringText_escaped (cs : List Char) : StringText cs (cs.flatMap escaped) := by
  induction cs with
  | nil => exact .nil
  | cons c cs ih =>
    rw [List.flatMap_cons]
    exact .cons (charText_escaped c) ih

end ScreenCapture.Json
