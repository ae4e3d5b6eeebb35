import Mathlib.Data.Nat.Digits.Defs
import ScreenCapture.Text.Blank
import ScreenCapture.Text.Numeral

namespace ScreenCapture.Text

/-- The number that digits stand for, the first of them for the most. -/
def valueOf (digits : List Char) : Nat :=
  Nat.ofDigits 10 (digits.reverse.map fun c => c.toNat - '0'.toNat)

/-- A text that is a number: digits after an optional plus sign. -/
def Numeral (s : List Char) (n : Nat) : Prop :=
  ∃ sign digits, s = sign ++ digits ∧ (sign = [] ∨ sign = ['+']) ∧ digits ≠ [] ∧
    (∀ c ∈ digits, c.isDigit = true) ∧ valueOf digits = n

/-- A text that is a number but for the blanks around it. -/
def Spells (s : List Char) (n : Nat) : Prop :=
  ∃ before numeral after, s = before ++ numeral ++ after ∧ (∀ c ∈ before, isBlank c = true) ∧
    (∀ c ∈ after, isBlank c = true) ∧ Numeral numeral n

theorem valueOf_cons (c : Char) (cs : List Char) :
    valueOf (c :: cs) = (c.toNat - '0'.toNat) * 10 ^ cs.length + valueOf cs := by
  rw [valueOf, List.reverse_cons, List.map_append, Nat.ofDigits_append, List.length_map,
    List.length_reverse, List.map_singleton, Nat.ofDigits_singleton, Nat.mul_comm, Nat.add_comm]
  rfl

theorem isDigit_iff (c : Char) : c.isDigit = true ↔ 48 ≤ c.toNat ∧ c.toNat ≤ 57 := by
  simp only [Char.isDigit, Bool.and_eq_true, decide_eq_true_eq, ge_iff_le, UInt32.le_iff_toNat_le]
  rfl

theorem digit?_eq (c : Char) :
    digit? c = if c.isDigit = true then some (c.toNat - '0'.toNat) else none := by
  simp only [isDigit_iff]
  rfl

/-- The characters of a number are no blanks. -/
theorem isBlank_eq_false {c : Char} (h : c = '+' ∨ c.isDigit = true) : isBlank c = false := by
  have hc : 43 ≤ c.toNat ∧ c.toNat ≤ 57 := by
    rcases h with rfl | h
    · decide
    · obtain ⟨hl, hu⟩ := (isDigit_iff c).mp h
      omega
  simp only [isBlank, Bool.or_eq_false_iff, Bool.and_eq_false_iff, decide_eq_false_iff_not]
  omega

/-- Digits after others move those up by one place each. -/
theorem readDigits_eq_ok_iff {limit value n : Nat} {past : NumeralError} {cs : List Char}
    (hv : value ≤ limit) : readDigits limit past value cs = .ok n ↔
      (∀ c ∈ cs, c.isDigit = true) ∧ value * 10 ^ cs.length + valueOf cs = n ∧ n ≤ limit := by
  induction cs generalizing value with
  | nil =>
    simp [readDigits, valueOf]
    omega
  | cons c cs ih =>
    rw [readDigits, digit?_eq]
    by_cases hc : c.isDigit = true
    · rw [if_pos hc]
      have hvalue : value * 10 ^ (c :: cs).length + valueOf (c :: cs) =
          (10 * value + (c.toNat - '0'.toNat)) * 10 ^ cs.length + valueOf cs := by
        rw [valueOf_cons, List.length_cons, Nat.pow_succ, Nat.add_mul,
          Nat.mul_comm (10 ^ cs.length), ← Nat.mul_assoc, Nat.mul_comm value 10, Nat.add_assoc]
      by_cases hl : limit < 10 * value + (c.toNat - '0'.toNat)
      · have hlarge : 10 * value + (c.toNat - '0'.toNat) ≤
            (10 * value + (c.toNat - '0'.toNat)) * 10 ^ cs.length :=
          Nat.le_mul_of_pos_right _ (Nat.pow_pos (by decide))
        simp only [hl, if_true, reduceCtorEq, false_iff]
        omega
      · simp only [hl, if_false]
        rw [ih (Nat.le_of_not_lt hl), hvalue, List.forall_mem_cons, and_iff_right hc]
    · simp [hc]

theorem readMagnitude_eq_ok_iff {limit n : Nat} {past : NumeralError} {cs : List Char} :
    readMagnitude limit past cs = .ok n ↔
      cs ≠ [] ∧ (∀ c ∈ cs, c.isDigit = true) ∧ valueOf cs = n ∧ n ≤ limit := by
  cases cs with
  | nil => simp [readMagnitude]
  | cons c cs =>
    show readDigits limit past 0 (c :: cs) = .ok n ↔ _
    rw [readDigits_eq_ok_iff (Nat.zero_le limit), Nat.zero_mul, Nat.zero_add,
      and_iff_right (List.cons_ne_nil c cs)]

/-- Numbers are read from numerals, as far as they are not too large. -/
theorem readUnsigned_eq_ok_iff {limit n : Nat} {cs : List Char} :
    readUnsigned limit cs = .ok n ↔ Numeral cs n ∧ n ≤ limit := by
  unfold readUnsigned
  split
  next =>
    simp [Numeral]
  next cs =>
    rw [readMagnitude_eq_ok_iff]
    constructor
    · rintro ⟨hne, hdigits, hvalue, hle⟩
      exact ⟨⟨['+'], cs, rfl, .inr rfl, hne, hdigits, hvalue⟩, hle⟩
    · rintro ⟨⟨sign, digits, heq, rfl | rfl, hne, hdigits, hvalue⟩, hle⟩
      · rw [List.nil_append] at heq
        subst heq
        exact absurd (hdigits '+' (by simp)) (by decide)
      · obtain rfl := (List.cons.inj heq).2
        exact ⟨hne, hdigits, hvalue, hle⟩
  next hnil hplus =>
    rw [readMagnitude_eq_ok_iff]
    constructor
    · rintro ⟨hne, hdigits, hvalue, hle⟩
      exact ⟨⟨[], cs, rfl, .inl rfl, hne, hdigits, hvalue⟩, hle⟩
    · rintro ⟨⟨sign, digits, heq, rfl | rfl, hne, hdigits, hvalue⟩, hle⟩
      · rw [List.nil_append] at heq
        subst heq
        exact ⟨hne, hdigits, hvalue, hle⟩
      · exact absurd heq (hplus _)

theorem Numeral.unique {s : List Char} {n m : Nat} (hn : Numeral s n) (hm : Numeral s m) :
    n = m := by
  have hread := readUnsigned_eq_ok_iff.mpr ⟨hn, Nat.le_max_left n m⟩
  rw [readUnsigned_eq_ok_iff.mpr ⟨hm, Nat.le_max_right n m⟩] at hread
  exact (Except.ok.inj hread).symm

theorem Numeral.mem {s : List Char} {n : Nat} (h : Numeral s n) {c : Char} (hc : c ∈ s) :
    c = '+' ∨ c.isDigit = true := by
  obtain ⟨sign, digits, rfl, hsign, -, hdigits, -⟩ := h
  rcases List.mem_append.mp hc with hc | hc
  · rcases hsign with rfl | rfl
    · simp at hc
    · exact .inl (List.mem_singleton.mp hc)
  · exact .inr (hdigits c hc)

theorem dropWhile_append {before s after : List Char} (hb : ∀ c ∈ before, isBlank c = true)
    (hs : ∀ c ∈ s, isBlank c = false) (hne : s ≠ []) :
    (before ++ s ++ after).dropWhile isBlank = s ++ after := by
  cases s with
  | nil => exact absurd rfl hne
  | cons c s =>
    rw [List.append_assoc, List.dropWhile_append_of_pos hb, List.cons_append,
      List.dropWhile_cons_of_neg (by simp [hs c (by simp)])]

theorem trim_append {before s after : List Char} (hb : ∀ c ∈ before, isBlank c = true)
    (ha : ∀ c ∈ after, isBlank c = true) (hs : ∀ c ∈ s, isBlank c = false) (hne : s ≠ []) :
    trim (before ++ s ++ after) = s := by
  have hback : (after.reverse ++ s.reverse).dropWhile isBlank = s.reverse := by
    have hdrop : (after.reverse ++ s.reverse ++ []).dropWhile isBlank = s.reverse ++ [] :=
      dropWhile_append (fun c hc => ha c (List.mem_reverse.mp hc))
        (fun c hc => hs c (List.mem_reverse.mp hc)) (mt List.reverse_eq_nil_iff.mp hne)
    rwa [List.append_nil, List.append_nil] at hdrop
  rw [trim, dropWhile_append hb hs hne, List.reverse_append, hback, List.reverse_reverse]

theorem exists_trim (s : List Char) : ∃ before after, s = before ++ trim s ++ after ∧
    (∀ c ∈ before, isBlank c = true) ∧ ∀ c ∈ after, isBlank c = true := by
  refine ⟨s.takeWhile isBlank, ((s.dropWhile isBlank).reverse.takeWhile isBlank).reverse,
    ?_, List.all_eq_true.mp List.all_takeWhile, fun c hc => ?_⟩
  · rw [trim, List.append_assoc, ← List.reverse_append, List.takeWhile_append_dropWhile,
      List.reverse_reverse, List.takeWhile_append_dropWhile]
  · exact List.all_eq_true.mp List.all_takeWhile c (List.mem_reverse.mp hc)

theorem spells_iff {s : List Char} {n : Nat} : Spells s n ↔ Numeral (trim s) n := by
  constructor
  · rintro ⟨before, numeral, after, rfl, hb, ha, hn⟩
    have hblank : ∀ c ∈ numeral, isBlank c = false := fun c hc => isBlank_eq_false (hn.mem hc)
    have hne : numeral ≠ [] := by
      obtain ⟨sign, digits, rfl, -, hne, -⟩ := hn
      simp [hne]
    rwa [trim_append hb ha hblank hne]
  · intro h
    obtain ⟨before, after, hs, hb, ha⟩ := exists_trim s
    exact ⟨before, trim s, after, hs, hb, ha, h⟩

theorem Spells.unique {s : List Char} {n m : Nat} (hn : Spells s n) (hm : Spells s m) : n = m :=
  (spells_iff.mp hn).unique (spells_iff.mp hm)

theorem Spells.mem {s : List Char} {n : Nat} (h : Spells s n) {c : Char} (hc : c ∈ s) :
    isBlank c = true ∨ c = '+' ∨ c.isDigit = true := by
  obtain ⟨before, numeral, after, rfl, hb, ha, hn⟩ := h
  rcases List.mem_append.mp hc with hc | hc
  · rcases List.mem_append.mp hc with hc | hc
    · exact .inl (hb c hc)
    · exact .inr (hn.mem hc)
  · exact .inl (ha c hc)

/-- Digits alone, without a zero in front of others. -/
structure Plain (s : List Char) : Prop where
  nonempty : s ≠ []
  digits : ∀ c ∈ s, c.isDigit = true
  leading : s.head? = some '0' → s = ['0']

theorem Plain.spells {s : List Char} (h : Plain s) : Spells s (valueOf s) :=
  ⟨[], s, [], by simp, by simp, by simp, [], s, rfl, .inl rfl, h.nonempty, h.digits, rfl⟩

/-- Plain digits are those of the number they stand for. -/
theorem Plain.eq_digits {s : List Char} (h : Plain s) (h0 : s ≠ ['0']) :
    s = ((Nat.digits 10 (valueOf s)).map digitChar).reverse := by
  have hlt : ∀ d ∈ s.reverse.map fun c => c.toNat - '0'.toNat, d < 10 := by
    intro d hd
    obtain ⟨c, hc, rfl⟩ := List.mem_map.mp hd
    obtain ⟨_, hu⟩ := (isDigit_iff c).mp (h.digits c (List.mem_reverse.mp hc))
    show c.toNat - 48 < 10
    omega
  have hchar : ∀ c ∈ s.reverse, digitChar (c.toNat - '0'.toNat) = c := by
    intro c hc
    obtain ⟨hl, _⟩ := (isDigit_iff c).mp (h.digits c (List.mem_reverse.mp hc))
    show Char.ofNat (48 + (c.toNat - 48)) = c
    rw [Nat.add_sub_cancel' hl, Char.ofNat_toNat]
  rw [valueOf, Nat.digits_ofDigits 10 (by decide) _ hlt, List.map_map]
  · have hmap : s.reverse.map (digitChar ∘ fun c => c.toNat - '0'.toNat) = s.reverse.map id :=
      List.map_congr_left hchar
    rw [hmap, List.map_id, List.reverse_reverse]
  · intro _ hlast
    -- the highest digit is the first one
    obtain ⟨c, cs, rfl⟩ := List.exists_cons_of_ne_nil h.nonempty
    rw [List.getLast_map, List.getLast_reverse, List.head_cons] at hlast
    have hc : digitChar 0 = c := hlast ▸ hchar c (by simp)
    exact h0 (h.leading (congrArg some hc.symm))

theorem Plain.eq_zero {s : List Char} (h : Plain s) (h0 : valueOf s = 0) : s = ['0'] := by
  refine Decidable.byContradiction fun hs => h.nonempty ?_
  have heq := h.eq_digits hs
  rwa [h0, Nat.digits_zero] at heq

theorem Plain.eq_of_valueOf {s t : List Char} (hs : Plain s) (ht : Plain t)
    (h : valueOf s = valueOf t) : s = t := by
  by_cases hz : valueOf s = 0
  · rw [hs.eq_zero hz, ht.eq_zero (h.symm.trans hz)]
  · have hs0 : s ≠ ['0'] := fun h0 => hz (by rw [h0]; decide)
    have ht0 : t ≠ ['0'] := fun h0 => hz (by rw [h, h0]; decide)
    rw [hs.eq_digits hs0, ht.eq_digits ht0, h]

theorem decimal_digits (n : Nat) :
    (∀ c ∈ decimal n, c.isDigit = true) ∧ valueOf (decimal n) = n := by
  have hread : readDigits n .tooLarge 0 (decimal n) = .ok n := readDigits_decimal (Nat.le_refl n)
  rw [readDigits_eq_ok_iff (Nat.zero_le n), Nat.zero_mul, Nat.zero_add] at hread
  exact ⟨hread.1, hread.2.1⟩

theorem head?_decimal {n : Nat} (hn : n ≠ 0) : (decimal n).head? ≠ some '0' := by
  induction n using Nat.strongRecOn with
  | _ n ih =>
    unfold decimal
    split
    next hlt =>
      intro h
      have hread := digit?_digitChar hlt
      rw [Option.some.inj h] at hread
      exact hn (Option.some.inj hread).symm
    next hlt =>
      rw [List.head?_append, Option.or_of_isSome (List.isSome_head?.mpr (decimal_ne_nil _))]
      exact ih (n / 10) (by omega) (by omega)

theorem plain_decimal (n : Nat) : Plain (decimal n) := by
  refine ⟨decimal_ne_nil n, (decimal_digits n).1, fun h => ?_⟩
  have hn : n = 0 := Decidable.byContradiction fun hn => head?_decimal hn h
  rw [hn, decimal]
  rfl

theorem Plain.eq_of_spells {s t : List Char} {n : Nat} (hs : Plain s) (ht : Plain t)
    (hsn : Spells s n) (htn : Spells t n) : s = t :=
  hs.eq_of_valueOf ht ((hs.spells.unique hsn).trans (htn.unique ht.spells))

theorem spells_decimal (n : Nat) : Spells (decimal n) n := by
  have h := (plain_decimal n).spells
  rwa [(decimal_digits n).2] at h

end ScreenCapture.Text
