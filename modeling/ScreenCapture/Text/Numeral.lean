namespace ScreenCapture.Text

/-- Why a text is no number of the wanted range. -/
inductive NumeralError
  | empty | invalidDigit | tooLarge | tooSmall
  deriving DecidableEq

def NumeralError.message : NumeralError → String
  | empty => "cannot parse integer from empty string"
  | invalidDigit => "invalid digit found in string"
  | tooLarge => "number too large to fit in target type"
  | tooSmall => "number too small to fit in target type"

/-- Value of an ASCII decimal digit. -/
def digit? (c : Char) : Option Nat :=
  if '0' ≤ c ∧ c ≤ '9' then some (c.toNat - 48) else none

/-- The digit with the given value below ten. -/
def digitChar (d : Nat) : Char := Char.ofNat (48 + d)

/-- The decimal digits of a number, without leading zeros. -/
def decimal (n : Nat) : List Char :=
  if n < 10 then [digitChar n] else decimal (n / 10) ++ [digitChar (n % 10)]

/-- Reads digits after those that gave `value`, up to the first fault: a character that is no digit,
or a digit that takes the value past `limit`. -/
def readDigits (limit : Nat) (past : NumeralError) : Nat → List Char → Except NumeralError Nat
  | value, [] => .ok value
  | value, c :: cs =>
    match digit? c with
    | none => .error .invalidDigit
    | some d =>
      if limit < 10 * value + d then .error past else readDigits limit past (10 * value + d) cs

/-- Reads one or more digits. -/
def readMagnitude (limit : Nat) (past : NumeralError) : List Char → Except NumeralError Nat
  | [] => .error .invalidDigit
  | cs => readDigits limit past 0 cs

/-- Reads a number from zero to `limit`, with an optional plus sign. -/
def readUnsigned (limit : Nat) : List Char → Except NumeralError Nat
  | [] => .error .empty
  | '+' :: cs => readMagnitude limit .tooLarge cs
  | cs => readMagnitude limit .tooLarge cs

/-- Reads a number from `-(limit + 1)` to `limit`, with an optional sign. -/
def readSigned (limit : Nat) : List Char → Except NumeralError Int
  | [] => .error .empty
  | '+' :: cs => (readMagnitude limit .tooLarge cs).map Int.ofNat
  | '-' :: cs => (readMagnitude (limit + 1) .tooSmall cs).map fun n => -Int.ofNat n
  | cs => (readMagnitude limit .tooLarge cs).map Int.ofNat

/-- Sign and digits of an integer. -/
def signedDecimal : Int → List Char
  | .ofNat n => decimal n
  | .negSucc n => '-' :: decimal (n + 1)

theorem digit?_digitChar {d : Nat} (h : d < 10) : digit? (digitChar d) = some d := by
  have hd : d = 0 ∨ d = 1 ∨ d = 2 ∨ d = 3 ∨ d = 4 ∨ d = 5 ∨ d = 6 ∨ d = 7 ∨ d = 8 ∨ d = 9 := by
    omega
  rcases hd with rfl | rfl | rfl | rfl | rfl | rfl | rfl | rfl | rfl | rfl <;> rfl

theorem decimal_ne_nil (n : Nat) : decimal n ≠ [] := by
  unfold decimal
  split <;> simp

theorem readDigits_append {limit : Nat} {past : NumeralError} {a b : List Char} {v w : Nat}
    (h : readDigits limit past v a = .ok w) :
    readDigits limit past v (a ++ b) = readDigits limit past w b := by
  induction a generalizing v with
  | nil =>
    cases h
    rfl
  | cons c a ih =>
    simp only [readDigits, List.cons_append] at h ⊢
    cases hc : digit? c with
    | none => simp [hc] at h
    | some d =>
      simp only [hc] at h ⊢
      split at h
      next => simp at h
      next hl => simpa [hl] using ih h

theorem readDigits_decimal {limit n : Nat} {past : NumeralError} (h : n ≤ limit) :
    readDigits limit past 0 (decimal n) = .ok n := by
  induction n using Nat.strongRecOn with
  | _ n ih =>
    unfold decimal
    split
    next hn =>
      simp only [readDigits, digit?_digitChar hn]
      rw [if_neg (by omega)]
      simp
    next hn =>
      rw [readDigits_append (ih (n / 10) (by omega) (by omega))]
      simp only [readDigits, digit?_digitChar (Nat.mod_lt n (by omega))]
      rw [if_neg (by omega)]
      simp
      omega

end ScreenCapture.Text
