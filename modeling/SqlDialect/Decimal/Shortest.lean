import SqlDialect.Value

/-!
# Shortest decimals

The shortest decimal that is read back as a given floating-point number, and among those of that
length the nearest. The reals that are rounded to a number form an interval around it, whose ends
belong to it if the significand is even. `shortest` tries one digit after another: a decimal of so
many digits is in the interval only if one of the two nearest to the number is.

`Double.text` writes the number positionally if its leading digit stands at a place from 10^-5 to
10^15, and with an exponent otherwise.
-/

namespace SqlDialect

namespace Double

/-! ## The reals that are rounded to a number -/

/-- Whether the number has a minus sign, as a negative zero has. -/
def isNegative (x : Double) : Bool := x.bits.toNat >>> 63 == 1

/-- The significand with its leading bit. -/
def significand (x : Double) : Nat :=
  if x.exponent = 0 then x.fraction else (1 <<< 52) + x.fraction

/-- The power of two that the significand is multiplied with, increased by 1074 so that it is a
natural number. -/
def scale (x : Double) : Nat := x.exponent - 1

/-- The absolute value, its lower and its upper end, all three in units of 2^-1076. -/
def interval (x : Double) : Nat × Nat × Nat :=
  let unit := 1 <<< x.scale
  let below := if x.fraction = 0 ∧ 1 < x.exponent then unit else 2 * unit
  (4 * x.significand * unit, 4 * x.significand * unit - below, 4 * x.significand * unit + 2 * unit)

end Double

/-! ## Decimals -/

/-- The decimal `digits · 10^exponent`. -/
structure Decimal where
  digits : Nat
  exponent : Int
  deriving DecidableEq, Repr

namespace Decimal

/-- The factors that make decimals with an exponent comparable to numbers in units of 2^-1076: the
first is for the decimals, the second for the numbers. -/
def factors (exponent : Int) : Nat × Nat :=
  if 0 ≤ exponent then (Nat.pow 10 exponent.toNat <<< 1076, 1)
  else (1 <<< 1076, Nat.pow 10 (-exponent).toNat)

/-- The decimal with this exponent that is in the interval of the number and nearest to it. -/
def nearest? (x : Double) (exponent : Int) : Option Decimal :=
  let (value, low, high) := x.interval
  let (forDecimal, forNumber) := factors exponent
  let inside (n : Nat) : Bool :=
    if x.significand % 2 = 0 then
      decide (low * forNumber ≤ n * forDecimal) && decide (n * forDecimal ≤ high * forNumber)
    else decide (low * forNumber < n * forDecimal) && decide (n * forDecimal < high * forNumber)
  let down := value * forNumber / forDecimal
  let toDown := value * forNumber - down * forDecimal
  let toUp := (down + 1) * forDecimal - value * forNumber
  let downFirst := toDown < toUp || (toDown == toUp && down % 2 == 0)
  let (first, second) := if downFirst then (down, down + 1) else (down + 1, down)
  if inside first then some ⟨first, exponent⟩
  else if inside second then some ⟨second, exponent⟩
  else none

/-- The first decimal found with exponents from `exponent` downwards. -/
def search (x : Double) : Nat → Int → Decimal
  | 0, exponent => ⟨0, exponent⟩
  | fuel + 1, exponent =>
    match nearest? x exponent with
    | some d => d
    | none => search x fuel (exponent - 1)

/-- The exponent of the leading digit of a positive number in units of 2^-1076. -/
def leadingExponent (value : Nat) : Int :=
  if 1 <<< 1076 ≤ value then (Nat.toDigits 10 (value >>> 1076)).length - 1
  else
    -- The quotient by the smaller power of ten has as many digits as places are left over.
    (Nat.toDigits 10 ((value * Nat.pow 10 400) >>> 1076)).length - 1 - 400

/-- The shortest decimal that is read back as the absolute value of a finite number. -/
def shortest (x : Double) : Decimal :=
  if x.isZero then ⟨0, 0⟩
  else search x 20 (leadingExponent x.interval.1 + 1)

end Decimal

/-- The number as its shortest decimal. -/
def Double.text (x : Double) : String :=
  let d := Decimal.shortest x
  let digits := (Nat.toDigits 10 d.digits)
  -- The place of the decimal point behind the first digit.
  let point : Int := digits.length + d.exponent
  let sign := if x.isNegative then ['-'] else []
  let body :=
    if d.digits = 0 then ['0', '.', '0']
    else if 0 ≤ d.exponent ∧ point ≤ 16 then
      digits ++ List.replicate d.exponent.toNat '0' ++ ['.', '0']
    else if 0 < point ∧ point ≤ 16 then
      digits.take point.toNat ++ '.' :: digits.drop point.toNat
    else if -5 < point ∧ point ≤ 0 then
      ['0', '.'] ++ List.replicate (-point).toNat '0' ++ digits
    else
      let shown := point - 1
      let exponent := (if shown < 0 then '-' else '+') :: Nat.toDigits 10 shown.natAbs
      match digits with
      | [digit] => digit :: 'e' :: exponent
      | first :: others => first :: '.' :: others ++ 'e' :: exponent
      | [] => []
  String.ofList (sign ++ body)

end SqlDialect
