/-!
Binary floating-point numbers of 64 bits as data: a sign, a whole mantissa and a power of two. The
exponent of a finite number is at least `minExponent`, its mantissa is below `2 ^ 53`, and below
`2 ^ 52` only at the least exponent. `ofRatio` rounds a quotient to the nearest such number, a half
to the even mantissa.
-/

namespace HttpTemplate

inductive Binary64 where
  | finite (negative : Bool) (mantissa : Nat) (exponent : Int)
  | infinite (negative : Bool)
  | nan
deriving DecidableEq, Repr

namespace Binary64

def minExponent : Int := -1074

def maxExponent : Int := 971

def twoTo (n : Nat) : Nat := Nat.pow 2 n

def tenTo (n : Nat) : Nat := Nat.pow 10 n

def isFinite : Binary64 → Bool
  | finite _ _ _ => true
  | _ => false

def isZero : Binary64 → Bool
  | finite _ m _ => m == 0
  | _ => false

def roundQuotient (num den : Nat) : Nat :=
  let q := num / den
  let r := num % den
  if 2 * r < den then q
  else if 2 * r = den then q + q % 2
  else q + 1

def scale (num den : Nat) (exponent : Int) : Nat × Nat :=
  if exponent < 0 then (num * twoTo (-exponent).toNat, den) else (num, den * twoTo exponent.toNat)

/-- The exponent at which `num / den` has a mantissa of 53 bits, or the least one. -/
def exponentOf (num den : Nat) : Int :=
  let e := max ((Nat.log2 num : Int) - Nat.log2 den - 53) minExponent
  let (n, d) := scale num den e
  if n / d < twoTo 53 then e else e + 1

def assemble (negative : Bool) (mantissa : Nat) (exponent : Int) : Binary64 :=
  let (m, e) := if mantissa = twoTo 53 then (twoTo 52, exponent + 1) else (mantissa, exponent)
  if maxExponent < e then infinite negative else finite negative m e

def ofRatio (negative : Bool) (num den : Nat) : Binary64 :=
  if num = 0 then finite negative 0 minExponent
  else
    let e := exponentOf num den
    let (n, d) := scale num den e
    assemble negative (roundQuotient n d) e

def decimalLength (n : Nat) : Nat := (Nat.toDigits 10 n).length

/-- The number nearest to `digits * 10 ^ exponent`. Decimals beyond every finite number, or nearer
to zero than to any other, are told by their length alone. -/
def ofDecimal (negative : Bool) (digits : Nat) (exponent : Int) : Binary64 :=
  let top := exponent + decimalLength digits
  if digits = 0 then finite negative 0 minExponent
  else if 310 < top then infinite negative
  else if top < -330 then finite negative 0 minExponent
  else if exponent < 0 then ofRatio negative digits (tenTo (-exponent).toNat)
  else ofRatio negative (digits * tenTo exponent.toNat) 1

def ofInt (n : Int) : Binary64 := ofRatio (n < 0) n.natAbs 1

def equalsInt : Binary64 → Int → Bool
  | finite neg m e, n =>
    let (a, d) := scale m 1 (-e)
    (if neg then -(a : Int) else a) == n * d
  | _, _ => false

def equals : Binary64 → Binary64 → Bool
  | finite s m e, finite s' m' e' => (m == 0 && m' == 0) || (s == s' && m == m' && e == e')
  | infinite s, infinite s' => s == s'
  | _, _ => false

def atLeast : Binary64 → Int → Bool
  | finite neg m e, n =>
    let (a, d) := scale m 1 (-e)
    n * d ≤ (if neg then -(a : Int) else a)
  | infinite neg, _ => !neg
  | nan, _ => false

end Binary64

end HttpTemplate
