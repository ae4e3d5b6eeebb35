import ScreenCapture.Json.Skip
import ScreenCapture.Proofs.Lexemes

namespace ScreenCapture.Json

/-- What can follow a number: nothing that could be a part of it. -/
def Stops (rest : List Char) : Prop :=
  ∀ c, rest.head? = some c → Text.digit? c = none ∧ c ≠ '.' ∧ c ≠ 'e' ∧ c ≠ 'E'

/-- Ways to write a value without parts. -/
inductive ScalarText : JsonScalar → List Char → Prop
  | null : ScalarText .null ['n', 'u', 'l', 'l']
  | bool (b : Bool) : ScalarText (.bool b) (JsonScalar.bool b).chars
  | integer (i : Int) : ScalarText (.integer i) (Text.signedDecimal i)
  | string {s : String} {t : List Char} : StringText s.toList t →
      ScalarText (.string s) ('"' :: t ++ ['"'])

theorem scalarText_chars (v : JsonScalar) : ScalarText v v.chars := by
  cases v with
  | null => exact .null
  | bool b => exact .bool b
  | integer i => exact .integer i
  | string s => exact .string (stringText_escaped s.toList)

variable {rest : List Char}

theorem startsWithDigit_of_stops (h : Stops rest) : startsWithDigit rest = false := by
  cases rest with
  | nil => rfl
  | cons c rest => simp only [startsWithDigit, (h c rfl).1, Option.isSome_none]

theorem digit?_of_mem_decimal {n : Nat} {c : Char} (h : c ∈ Text.decimal n) :
    (Text.digit? c).isSome = true := by
  rw [Text.digit?_eq, if_pos ((Text.decimal_digits n).1 c h)]
  rfl

/-- The first digit is a zero only if it is the only one. -/
theorem decimal_eq (n : Nat) : ∃ c cs, Text.decimal n = c :: cs ∧ (Text.digit? c).isSome = true ∧
    (n ≠ 0 → c ≠ '0') := by
  obtain ⟨c, cs, h⟩ := List.exists_cons_of_ne_nil (Text.decimal_ne_nil n)
  refine ⟨c, cs, h, digit?_of_mem_decimal (h ▸ List.mem_cons_self), ?_⟩
  rintro hn rfl
  exact Text.head?_decimal hn (by rw [h]; rfl)

theorem decimal_of_lt {n : Nat} (h : n < 10) : Text.decimal n = [Text.digitChar n] := by
  rw [Text.decimal, if_pos h]

theorem decimal_zero : Text.decimal 0 = ['0'] := decimal_of_lt (by decide)

theorem startsWithDigit_decimal (n : Nat) (rest : List Char) :
    startsWithDigit (Text.decimal n ++ rest) = true := by
  obtain ⟨c, cs, h, hc, _⟩ := decimal_eq n
  rw [h]
  exact hc

theorem significand_append {a : List Char} {v w : Nat}
    (h : Text.readDigits maxNatural .tooLarge v a = .ok w) :
    significand v (a ++ rest) = significand w rest := by
  induction a generalizing v with
  | nil =>
    cases h
    rfl
  | cons c a ih =>
    rw [Text.readDigits] at h
    split at h
    next => cases h
    next d hd =>
      split at h
      next => cases h
      next hl =>
        rw [List.cons_append, significand, hd]
        simp only [if_neg hl]
        exact ih h

theorem significand_of_stops (h : Stops rest) (n : Nat) : significand n rest = (n, rest) := by
  cases rest with
  | nil => rfl
  | cons c rest => simp only [significand, (h c rfl).1]

theorem integerRest_of_stops (h : Stops rest) (positive : Bool) (n : Nat) :
    integerRest positive n rest = .ok (integer positive n, rest) := by
  unfold integerRest
  split
  next => exact absurd rfl (h '.' rfl).2.1
  next => exact absurd rfl (h 'e' rfl).2.2.1
  next => exact absurd rfl (h 'E' rfl).2.2.2
  next => rfl

theorem magnitude_decimal {n : Nat} (hn : n ≤ maxNatural) (h : Stops rest) (positive : Bool) :
    magnitude positive (Text.decimal n ++ rest) = .ok (integer positive n, rest) := by
  by_cases h0 : n = 0
  · rw [h0, decimal_zero, List.singleton_append, magnitude]
    simp only [startsWithDigit_of_stops h, Bool.false_eq_true, if_false]
    exact integerRest_of_stops h positive 0
  · obtain ⟨c, cs, hd, _, hc⟩ := decimal_eq n
    have hfirst := startsWithDigit_decimal n rest
    have hvalue : significand 0 (Text.decimal n ++ rest) = (n, rest) :=
      (significand_append (Text.readDigits_decimal hn)).trans
        (significand_of_stops h n)
    rw [hd, List.cons_append] at hfirst hvalue ⊢
    unfold magnitude
    split
    next he => cases he
    next he => exact absurd (List.cons.inj he).1 (hc h0)
    next =>
      rw [if_pos hfirst, hvalue]
      simp only [startsWithDigit_of_stops h, Bool.false_eq_true, if_false]
      exact integerRest_of_stops h positive n

theorem skipDigits_decimal (h : Stops rest) (n : Nat) :
    skipDigits (Text.decimal n ++ rest) = rest := by
  rw [skipDigits, List.dropWhile_append_of_pos fun c hc => digit?_of_mem_decimal hc]
  cases rest with
  | nil => rfl
  | cons c rest => rw [List.dropWhile_cons_of_neg (by simp [(h c rfl).1])]

theorem skipRest_of_stops (h : Stops rest) : skipMagnitude.skipRest rest = .ok rest := by
  unfold skipMagnitude.skipRest
  split
  next => exact absurd rfl (h '.' rfl).2.1
  next => exact absurd rfl (h 'e' rfl).2.2.1
  next => exact absurd rfl (h 'E' rfl).2.2.2
  next => rfl

theorem skipMagnitude_decimal (h : Stops rest) (n : Nat) :
    skipMagnitude (Text.decimal n ++ rest) = .ok rest := by
  have hfirst := startsWithDigit_decimal n rest
  have hdigits := skipDigits_decimal h n
  unfold skipMagnitude
  split
  next c cs he =>
    by_cases h0 : n = 0
    · rw [h0, decimal_zero] at he
      obtain rfl := (List.cons.inj he).2
      rw [(h c rfl).1]
      exact skipRest_of_stops h
    · obtain ⟨d, ds, hd, _, hc⟩ := decimal_eq n
      rw [hd] at he
      exact absurd (List.cons.inj he).1 (hc h0)
  next =>
    rw [if_pos hfirst, hdigits]
    exact skipRest_of_stops h

/-- Integers of 64 bits, with a sign or without. They are read exactly. -/
def Exact (i : Int) : Prop := -0x8000000000000000 ≤ i ∧ i ≤ 0xFFFFFFFFFFFFFFFF

theorem number?_signedDecimal {i : Int} (hi : Exact i) (h : Stops rest) :
    ∃ n, number? (Text.signedDecimal i ++ rest) = some (.ok (n, rest)) ∧
      (n = .natural i.toNat ∧ 0 ≤ i ∨ n = .negative i) := by
  obtain ⟨hlow, hhigh⟩ := hi
  have hmax : maxNatural = 0xFFFFFFFFFFFFFFFF := rfl
  cases i with
  | ofNat n =>
    have hfirst := startsWithDigit_decimal n rest
    have hn : n ≤ maxNatural := hmax ▸ Int.ofNat_le.mp hhigh
    have hvalue := magnitude_decimal hn h true
    refine ⟨_, ?_, .inl ⟨rfl, Int.natCast_nonneg n⟩⟩
    rw [Text.signedDecimal, number?]
    · rw [if_pos hfirst, hvalue]
      rfl
    · -- a sign is no digit
      intro s he
      rw [he] at hfirst
      exact Bool.noConfusion hfirst
  | negSucc n =>
    have hn : n + 1 ≤ maxNatural := by omega
    refine ⟨_, congrArg some (magnitude_decimal hn h false), .inr ?_⟩
    have hle : ¬ (n + 1 = 0 ∨ 0x8000000000000000 < n + 1) := by omega
    rw [integer, if_neg Bool.false_ne_true, if_neg hle]
    rfl

theorem of_digit {c : Char} (h : (Text.digit? c).isSome = true) : isSpace c = false ∧ c ≠ 'n' := by
  simp only [isSpace, Bool.or_eq_false_iff, decide_eq_false_iff_not]
  refine ⟨⟨⟨⟨?_, ?_⟩, ?_⟩, ?_⟩, ?_⟩ <;> rintro rfl <;> exact Bool.noConfusion h

/-- A value begins with a character that is no blank, and with an `n` only if it is null. -/
theorem head?_scalarText {v : JsonScalar} {t : List Char} (h : ScalarText v t)
    (rest : List Char) :
    ∃ c, (t ++ rest).head? = some c ∧ isSpace c = false ∧ (v ≠ .null → c ≠ 'n') := by
  cases h with
  | null => exact ⟨'n', rfl, rfl, fun hv => absurd rfl hv⟩
  | bool b => cases b <;> exact ⟨_, rfl, rfl, fun _ => by decide⟩
  | string ht => exact ⟨'"', rfl, rfl, fun _ => by decide⟩
  | integer i =>
    cases i with
    | ofNat n =>
      obtain ⟨c, cs, hd, hc, _⟩ := decimal_eq n
      obtain ⟨hspace, hn⟩ := of_digit hc
      exact ⟨c, by rw [Text.signedDecimal, hd]; rfl, hspace, fun _ => hn⟩
    | negSucc n => exact ⟨'-', rfl, rfl, fun _ => by decide⟩

theorem skipStart_of_digit {s : List Char} (h : startsWithDigit s = true) :
    skipStart s = (skipMagnitude s).map fun s => (none, s) := by
  unfold skipStart
  split
  case h_9 => rw [if_pos h]
  all_goals exact Bool.noConfusion h

theorem skipStart_append {v : JsonScalar} {t : List Char} (h : ScalarText v t)
    (hr : Stops rest) : skipStart (t ++ rest) = .ok (none, rest) := by
  cases h with
  | null => rfl
  | bool b => cases b <;> rfl
  | @string s t ht =>
    have hskip : skipString (t ++ '"' :: rest) = .ok rest :=
      skipStringBody_append ht (by simp) rest
    simp only [List.cons_append, List.append_assoc, List.nil_append, skipStart, hskip]
    rfl
  | integer i =>
    cases i with
    | ofNat n =>
      rw [Text.signedDecimal, skipStart_of_digit (startsWithDigit_decimal n rest),
        skipMagnitude_decimal hr]
      rfl
    | negSucc n =>
      rw [Text.signedDecimal, List.cons_append, skipStart]
      simp only [skipMagnitude_decimal hr]
      rfl

theorem skipValue_append {v : JsonScalar} {gap t : List Char} (hg : Gap gap)
    (h : ScalarText v t) (hr : Stops rest) : skipValue (gap ++ (t ++ rest)) = .ok rest := by
  obtain ⟨c, hc, hspace, _⟩ := head?_scalarText h rest
  rw [skipValue, skipFrames, skipSpace_append hg hc hspace, skipStart_append h hr]

variable {α β : Type}

/-- The reader takes a value from the front of a text, in whatever way it is written and with blanks
before it or without. -/
def Reads (read : JsonReader α) (v : JsonScalar) (a : α) : Prop :=
  ∀ gap t rest, Gap gap → ScalarText v t → Stops rest → read (gap ++ (t ++ rest)) = .ok (a, rest)

theorem reads_reading {read : JsonReader α} {v : JsonScalar} {a : α}
    (h : ∀ t rest, ScalarText v t → Stops rest → read (t ++ rest) = .ok (a, rest)) :
    Reads (reading read) v a := by
  intro gap t rest hg ht hr
  obtain ⟨c, hc, hspace, _⟩ := head?_scalarText ht rest
  obtain ⟨cs, hcs⟩ := List.head?_eq_some_iff.mp hc
  rw [reading, skipSpace_append hg hc hspace, hcs]
  simp only
  rw [← hcs]
  exact h t rest ht hr

theorem reads_string (s : String) : Reads readString (.string s) s := by
  refine reads_reading fun t rest ht hr => ?_
  cases ht with
  | string ht =>
    simp only [List.cons_append, List.append_assoc, List.nil_append]
    exact stringRest_append ht rest

theorem reads_integer (expected : String) (low high : Int) {i : Int} (hl : low ≤ i) (hh : i ≤ high)
    (he : Exact i) : Reads (readInteger expected low high) (.integer i) i := by
  refine reads_reading fun t rest ht hr => ?_
  cases ht
  obtain ⟨n, hn, hvalue⟩ := number?_signedDecimal he hr
  rw [hn]
  rcases hvalue with ⟨rfl, hpos⟩ | rfl
  · simp only [Int.toNat_of_nonneg hpos, if_pos (And.intro hl hh)]
    rfl
  · simp only [if_pos (And.intro hl hh)]
    rfl

theorem Reads.map {read : JsonReader α} {v : JsonScalar} {a : α} (h : Reads read v a)
    (g : α → β) : Reads (fun s => (read s).map fun (a, s) => (g a, s)) v (g a) := by
  intro gap t rest hg ht hr
  simp only [h gap t rest hg ht hr]
  rfl

theorem reads_uint64 (n : UInt64) : Reads readUInt64 (.integer n.toNat) n := by
  have hn := n.toNat_lt
  have h := (reads_integer "u64" 0 18446744073709551615 (i := n.toNat)
    (by omega) (by omega) ⟨by omega, by omega⟩).map fun i => UInt64.ofNat i.toNat
  rwa [Int.toNat_natCast, UInt64.ofNat_toNat] at h

theorem reads_uint32 (n : UInt32) : Reads readUInt32 (.integer n.toNat) n := by
  have hn := n.toNat_lt
  have h := (reads_integer "u32" 0 4294967295 (i := n.toNat)
    (by omega) (by omega) ⟨by omega, by omega⟩).map fun i => UInt32.ofNat i.toNat
  rwa [Int.toNat_natCast, UInt32.ofNat_toNat] at h

theorem reads_int32 (i : Int32) : Reads readInt32 (.integer i.toInt) i := by
  have hl := i.le_toInt
  have hh := i.toInt_lt
  have h := (reads_integer "i32" (-2147483648) 2147483647 (i := i.toInt)
    (by omega) (by omega) ⟨by omega, by omega⟩).map Int32.ofInt
  rwa [Int32.ofInt_toInt] at h

theorem Reads.checked {read : JsonReader α} {check : α → Except String β} {v : JsonScalar} {a : α}
    {b : β} (h : Reads read v a) (hc : check a = .ok b) : Reads (readChecked read check) v b := by
  intro gap t rest hg ht hr
  simp only [readChecked, h gap t rest hg ht hr, hc]

theorem reads_null (read : JsonReader α) : Reads (readOption read) .null none := by
  intro gap t rest hg ht hr
  cases ht
  rw [readOption, skipSpace_append hg (c := 'n') rfl rfl]
  rfl

theorem Reads.some {read : JsonReader α} {v : JsonScalar} {a : α} (h : Reads read v a)
    (hv : v ≠ .null) : Reads (readOption read) v (some a) := by
  intro gap t rest hg ht hr
  obtain ⟨c, hc, hspace, hn⟩ := head?_scalarText ht rest
  rw [readOption, skipSpace_append hg hc hspace]
  split
  next he =>
    rw [he] at hc
    exact absurd (Option.some.inj hc).symm (hn hv)
  next =>
    rw [show t ++ rest = [] ++ (t ++ rest) from rfl, h [] t rest nofun ht hr]
    rfl

end ScreenCapture.Json
