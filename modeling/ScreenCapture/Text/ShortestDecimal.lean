import ScreenCapture.Text.Numeral

namespace ScreenCapture.Text

/-- A positive number `digits * 10 ^ exponent`. -/
structure Decimal where
  digits : Nat
  exponent : Int
  deriving DecidableEq

/-- Mantissa and binary exponent of a finite positive double, and whether the gap below it is half
the gap above. -/
structure Binary where
  mantissa : Nat
  exponent : Int
  narrowBelow : Bool

/-- The leading bit of a mantissa, which the bits of a double leave out. -/
def Binary.leadingBit : Nat := 0x10000000000000

/-- Splits the bits of a finite positive double. -/
def Binary.ofBits (bits : Nat) : Binary :=
  let field : Nat := bits / leadingBit % 2048
  let fraction : Nat := bits % leadingBit
  if field = 0 then ⟨fraction, -1074, false⟩
  else ⟨fraction + leadingBit, (field : Int) - 1075, fraction = 0 && 1 < field⟩

/-- Numerator and denominator of `n * 2 ^ e`. -/
def scaleBinary (n : Nat) (e : Int) : Nat × Nat :=
  if 0 ≤ e then (n <<< e.toNat, 1) else (n, 1 <<< (-e).toNat)

/-- The grid point `c * 10 ^ g` as numerator and denominator. -/
def scaleDecimal (c : Nat) (g : Int) : Nat × Nat :=
  if 0 ≤ g then (c * Nat.pow 10 g.toNat, 1) else (c, Nat.pow 10 (-g).toNat)

def ratioLt (a b : Nat × Nat) : Bool := a.1 * b.2 < b.1 * a.2

/-- Whether a grid point reads back as the number: it lies between the two midpoints, and on one of
them only if the mantissa is even. -/
def Binary.readsBack (b : Binary) (c : Nat) (g : Int) : Bool :=
  let low := scaleBinary (4 * b.mantissa - if b.narrowBelow then 1 else 2) (b.exponent - 2)
  let high := scaleBinary (4 * b.mantissa + 2) (b.exponent - 2)
  let x := scaleDecimal c g
  if b.mantissa % 2 = 0 then !ratioLt x low && !ratioLt high x else ratioLt low x && ratioLt x high

/-- Whether the lower neighbour on the grid is at most as far away as the upper one. -/
def Binary.lowerIsNearer (b : Binary) (c : Nat) (g : Int) : Bool :=
  let v := scaleBinary (2 * b.mantissa) b.exponent
  let middle := scaleDecimal (2 * c + 1) g
  ratioLt v middle || (!ratioLt middle v && c % 2 = 0)

/-- The neighbour of the number on the grid of step `10 ^ g` that reads back as it. -/
def Binary.onGrid? (b : Binary) (g : Int) : Option Decimal :=
  let v := scaleBinary b.mantissa b.exponent
  let step := scaleDecimal 1 g
  let c := v.1 * step.2 / (v.2 * step.1)
  match b.readsBack c g, b.readsBack (c + 1) g with
  | true, true => some ⟨if b.lowerIsNearer c g then c else c + 1, g⟩
  | true, false => some ⟨c, g⟩
  | false, true => some ⟨c + 1, g⟩
  | false, false => none

/-- Tries finer and finer grids. -/
def Binary.refine (b : Binary) : Nat → Int → Decimal
  | 0, _ => ⟨b.mantissa, b.exponent⟩
  | n + 1, g =>
    match b.onGrid? g with
    | some d => d
    | none => b.refine n (g - 1)

/-- Drops trailing zeros. -/
def Decimal.reduce : Nat → Decimal → Decimal
  | 0, d => d
  | n + 1, d =>
    if d.digits ≠ 0 ∧ d.digits % 10 = 0 then reduce n ⟨d.digits / 10, d.exponent + 1⟩ else d

/-- The fewest digits that read back as the number, and of these the nearest to it. -/
def Binary.shortest (b : Binary) : Decimal :=
  let top : Int := ((b.mantissa.log2 : Int) + b.exponent) * 30103 / 100000 + 1
  (b.refine 20 top).reduce 20

/-- Which decimal exponents of the leading digit are written without an exponent, and whether a
positive exponent is written with a sign. -/
structure RealFormat where
  lowest : Int
  highest : Int
  plus : Bool

/-- Digits and point, or one digit before the point and an exponent. -/
def Decimal.layout (f : RealFormat) (d : Decimal) : List Char :=
  let ds := decimal d.digits
  let lead : Int := (ds.length : Int) - 1 + d.exponent
  if lead < f.lowest ∨ f.highest < lead then
    let mark := if 0 ≤ lead then (if f.plus then ['e', '+'] else ['e']) else ['e', '-']
    let tail := mark ++ decimal lead.natAbs
    match ds with
    | [] => tail
    | [c] => c :: tail
    | c :: cs => c :: '.' :: cs ++ tail
  else if lead < 0 then
    ['0', '.'] ++ List.replicate (lead.natAbs - 1) '0' ++ ds
  else if 0 ≤ d.exponent then
    ds ++ List.replicate d.exponent.toNat '0' ++ ['.', '0']
  else
    ds.take (lead.toNat + 1) ++ '.' :: ds.drop (lead.toNat + 1)

/-- Text of a double: the fewest digits that read back, with at least one after a point. -/
def realText (f : RealFormat) (x : Float) : String :=
  let bits := x.toBits.toNat
  let sign := if 0x8000000000000000 ≤ bits then ['-'] else []
  let magnitude := bits % 0x8000000000000000
  let body :=
    if magnitude = 0 then ['0', '.', '0']
    else if magnitude = 0x7FF0000000000000 then ['i', 'n', 'f']
    else if 0x7FF0000000000000 < magnitude then ['N', 'a', 'N']
    else ((Binary.ofBits magnitude).shortest).layout f
  String.ofList (sign ++ body)

end ScreenCapture.Text
