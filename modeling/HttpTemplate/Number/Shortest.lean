import HttpTemplate.Number.Binary64
import HttpTemplate.Text.Digit

/-!
The shortest decimal that reads back as a given binary number. Every binary number owns an interval
of reals that round to it. Decimals of one, two, up to seventeen digits are tried in turn; on each
grid only the two neighbours of the number matter, and of two that lie in the interval the nearer
is taken, or the one with an even last digit.
-/

namespace HttpTemplate

structure Decimal where
  digits : Nat
  exponent : Int
deriving DecidableEq, Repr

/-- The interval of a number, in units of a quarter of its last place: the number itself, the two
ends, and the exponent of the unit. The ends belong to the interval when the mantissa is even. -/
structure RoundingInterval where
  value : Nat
  low : Nat
  high : Nat
  exponent : Int
  closed : Bool
deriving DecidableEq, Repr

namespace RoundingInterval

open Binary64 (twoTo tenTo)

def of (mantissa : Nat) (exponent : Int) : RoundingInterval where
  value := 4 * mantissa
  low := 4 * mantissa - (if mantissa = twoTo 52 ∧ Binary64.minExponent < exponent then 1 else 2)
  high := 4 * mantissa + 2
  exponent := exponent - 2
  closed := mantissa % 2 = 0

/-- A grid of decimals `k * step`, both sides brought to whole numbers: `unit` is the size of the
interval's unit and `step` that of the grid. -/
structure Grid where
  unit : Nat
  step : Nat
deriving DecidableEq, Repr

def grid (i : RoundingInterval) (place : Int) : Grid where
  unit := twoTo i.exponent.toNat * tenTo (-place).toNat
  step := twoTo (-i.exponent).toNat * tenTo place.toNat

def holds (i : RoundingInterval) (g : Grid) (k : Nat) : Bool :=
  if i.closed then i.low * g.unit ≤ k * g.step && k * g.step ≤ i.high * g.unit
  else i.low * g.unit < k * g.step && k * g.step < i.high * g.unit

def pick? (i : RoundingInterval) (g : Grid) : Option Nat :=
  let k := i.value * g.unit / g.step
  match i.holds g k, i.holds g (k + 1) with
  | false, false => none
  | true, false => some k
  | false, true => some (k + 1)
  | true, true => some (Binary64.roundQuotient (i.value * g.unit) g.step)

def leading (i : RoundingInterval) : Int :=
  let g := i.grid 0
  let n := i.value * g.unit
  if g.step ≤ n then Binary64.decimalLength (n / g.step) - 1
  else -(Binary64.decimalLength ((g.step - 1) / n) : Int)

def pickAt (i : RoundingInterval) (count : Nat) : Option Decimal :=
  let place := i.leading - count
  (i.pick? (i.grid place)).map (⟨·, place⟩)

def shortest (i : RoundingInterval) : Decimal :=
  ((List.range 17).findSome? i.pickAt).getD ⟨i.value, i.exponent⟩

end RoundingInterval

/-- How a decimal is laid out: without a power of ten when the leading digit's exponent is at least
`positionalFrom` and below `powerFrom`, else with a power of at least `powerWidth` digits. -/
structure DecimalStyle where
  positionalFrom : Int
  powerFrom : Int
  powerWidth : Nat

namespace Decimal

def significant (d : Decimal) : List Char :=
  ((Nat.toDigits 10 d.digits).reverse.dropWhile (· == '0')).reverse

def leading (d : Decimal) : Int := d.exponent + (Nat.toDigits 10 d.digits).length - 1

def padded (width : Nat) (s : List Char) : List Char :=
  List.replicate (width - s.length) '0' ++ s

def positional (digits : List Char) (lead : Int) : List Char :=
  if lead < 0 then '0' :: '.' :: (List.replicate (-lead - 1).toNat '0' ++ digits)
  else
    let whole := lead.toNat + 1
    let fraction := digits.drop whole
    digits.take whole ++ List.replicate (whole - digits.length) '0' ++
      '.' :: (if fraction.isEmpty then ['0'] else fraction)

def withPower (width : Nat) (digits : List Char) (lead : Int) : List Char :=
  let fraction := digits.drop 1
  digits.take 1 ++ (if fraction.isEmpty then [] else '.' :: fraction) ++
    'e' :: (if lead < 0 then '-' else '+') :: padded width (Nat.toDigits 10 lead.natAbs)

def write (style : DecimalStyle) (d : Decimal) : List Char :=
  let lead := d.leading
  if style.positionalFrom ≤ lead ∧ lead < style.powerFrom then positional d.significant lead
  else withPower style.powerWidth d.significant lead

end Decimal

def Binary64.style : DecimalStyle := ⟨-4, 16, 2⟩

def Binary64.sign (negative : Bool) (s : String) : String := if negative then "-" ++ s else s

def Binary64.text : Binary64 → String
  | finite negative m e =>
    sign negative (if m = 0 then "0.0"
      else String.ofList ((RoundingInterval.of m e).shortest.write style))
  | infinite negative => sign negative "inf"
  | nan => "nan"

end HttpTemplate
