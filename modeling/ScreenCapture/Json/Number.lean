import ScreenCapture.Json.Scan

namespace ScreenCapture

/-- A number as a JSON text gives it. -/
inductive JsonNumber
  | natural (value : Nat)
  | negative (value : Int)
  | real (value : Float)

def JsonNumber.kind : JsonNumber → JsonKind
  | natural n => .integer n
  | negative i => .integer i
  | real x => .real x

namespace Json

/-- Integers up to this one are read exactly. -/
def maxNatural : Nat := UInt64.size - 1

def startsWithDigit : List Char → Bool
  | c :: _ => (Text.digit? c).isSome
  | [] => false

/-- Appends digits to a number, as long as it does not exceed the largest natural. -/
def significand (value : Nat) : List Char → Nat × List Char
  | [] => (value, [])
  | c :: cs =>
    match Text.digit? c with
    | none => (value, c :: cs)
    | some d =>
      if maxNatural < 10 * value + d then (value, c :: cs) else significand (10 * value + d) cs

def skipDigits (s : List Char) : List Char := s.dropWhile fun c => (Text.digit? c).isSome

/-- Value of a run of digits, however long, and what follows it. -/
def exponentDigits (value : Nat) : List Char → Nat × List Char
  | [] => (value, [])
  | c :: cs =>
    match Text.digit? c with
    | none => (value, c :: cs)
    | some d => exponentDigits (10 * value + d) cs

/-- Divides by ten to the 308 until the exponent is in the range of the powers of ten, or until
nothing is left. -/
def scaleDown : Nat → Float → Int → Float
  | 0, x, _ => x
  | fuel + 1, x, exponent =>
    if -308 ≤ exponent then x / Float.ofScientific 1 false exponent.natAbs
    else if x == 0 then x
    else scaleDown fuel (x / Float.ofScientific 1 false 308) (exponent + 308)

/-- The number `value * 10 ^ exponent`, rounded once for the value and once for each division or
multiplication. -/
def realOfParts (positive : Bool) (value : Nat) (exponent : Int) : Except JsonError Float :=
  let signed (x : Float) : Float := if positive then x else -x
  let x := (UInt64.ofNat value).toFloat
  if 308 < exponent then
    if x == 0 then .ok (signed x) else .error .numberOutOfRange
  else if 0 ≤ exponent then
    let x := x * Float.ofScientific 1 false exponent.toNat
    if x.isInf then .error .numberOutOfRange else .ok (signed x)
  else .ok (signed (scaleDown 4 x exponent))

/-- What follows the letter of an exponent. -/
def exponentRest (positive : Bool) (value : Nat) (start : Int) (s : List Char) :
    Except JsonError (Float × List Char) :=
  let (up, s) := match s with
    | '+' :: s => (true, s)
    | '-' :: s => (false, s)
    | s => (true, s)
  match s with
  | [] => .error .endOfValue
  | c :: _ =>
    if (Text.digit? c).isNone then .error .invalidNumber
    else
      let (e, s) := exponentDigits 0 s
      (realOfParts positive value (if up then start + e else start - e)).map fun x => (x, s)

/-- What may follow the digits of a real number. -/
def realRest (positive : Bool) (value : Nat) (exponent : Int) (s : List Char) :
    Except JsonError (Float × List Char) :=
  match s with
  | 'e' :: s | 'E' :: s => exponentRest positive value exponent s
  | s => (realOfParts positive value exponent).map fun x => (x, s)

/-- What follows a decimal point. Digits that do not fit any more are passed over. -/
def fractionRest (positive : Bool) (value : Nat) (exponent : Int) (s : List Char) :
    Except JsonError (Float × List Char) :=
  let (value, rest) := significand value s
  let places := s.length - rest.length
  if startsWithDigit rest then realRest positive value (exponent - places) (skipDigits rest)
  else if places = 0 then .error (if rest.isEmpty then .endOfValue else .invalidNumber)
  else realRest positive value (exponent - places) rest

/-- A number too long for a natural: its further digits count as zeros. -/
def longInteger (positive : Bool) (value : Nat) (s : List Char) :
    Except JsonError (Float × List Char) :=
  let rest := skipDigits s
  let skipped : Int := s.length - rest.length
  match rest with
  | '.' :: rest => fractionRest positive value skipped rest
  | rest => realRest positive value skipped rest

/-- An integer. There is no negative zero, and none that does not fit 64 bits. -/
def integer (positive : Bool) (value : Nat) : JsonNumber :=
  if positive then .natural value
  else if value = 0 ∨ 0x8000000000000000 < value then .real (-(UInt64.ofNat value).toFloat)
  else .negative (-value)

/-- What may follow the digits of an integer. -/
def integerRest (positive : Bool) (value : Nat) (s : List Char) :
    Except JsonError (JsonNumber × List Char) :=
  match s with
  | '.' :: s => (fractionRest positive value 0 s).map fun (x, s) => (.real x, s)
  | 'e' :: s | 'E' :: s => (exponentRest positive value 0 s).map fun (x, s) => (.real x, s)
  | s => .ok (integer positive value, s)

/-- A number after its sign. -/
def magnitude (positive : Bool) (s : List Char) : Except JsonError (JsonNumber × List Char) :=
  match s with
  | [] => .error .endOfValue
  | '0' :: s => if startsWithDigit s then .error .invalidNumber else integerRest positive 0 s
  | s =>
    if startsWithDigit s then
      let (value, rest) := significand 0 s
      if startsWithDigit rest then
        (longInteger positive value rest).map fun (x, s) => (.real x, s)
      else integerRest positive value rest
    else .error .invalidNumber

/-- A number, or nothing if the text does not begin with one. -/
def number? : List Char → Option (Except JsonError (JsonNumber × List Char))
  | '-' :: s => some (magnitude false s)
  | s => if startsWithDigit s then some (magnitude true s) else none

/-- Passes over an exponent after its letter. -/
def skipExponent (s : List Char) : Except JsonError (List Char) :=
  let s := match s with
    | '+' :: s | '-' :: s => s
    | s => s
  if startsWithDigit s then .ok (skipDigits s) else .error .invalidNumber

/-- Passes over a number after its sign. Its size does not matter. -/
def skipMagnitude (s : List Char) : Except JsonError (List Char) :=
  match s with
  | '0' :: c :: s => if (Text.digit? c).isSome then .error .invalidNumber else skipRest (c :: s)
  | s => if startsWithDigit s then skipRest (skipDigits s) else .error .invalidNumber
where
  skipRest : List Char → Except JsonError (List Char)
    | '.' :: s =>
      if startsWithDigit s then
        match skipDigits s with
        | 'e' :: s | 'E' :: s => skipExponent s
        | s => .ok s
      else .error .invalidNumber
    | 'e' :: s | 'E' :: s => skipExponent s
    | s => .ok s

end Json

end ScreenCapture
