import HttpTemplate.Number.Binary64
import HttpTemplate.Text.Blank
import HttpTemplate.Text.Digit

/-!
Numerals in text. A whole numeral is an optional sign and digits, a real numeral may have a point
and a power of ten or name infinity or what is not a number. Digits of every script count, single
underscores may stand between digits, and spaces around the numeral are ignored.
-/

namespace HttpTemplate

namespace Numeral

/-- A whole number of more digits than this is neither read nor written. -/
def maxDigits : Nat := 4300

def isWritable (n : Int) : Bool := (Nat.toDigits 10 n.natAbs).length ≤ maxDigits

def excessMessage (detail : String) : String :=
  "Exceeds the limit (" ++ Text.decimal maxDigits ++ " digits) for integer string conversion" ++
    detail ++ "; use sys.set_int_max_str_digits() to increase the limit"

inductive Defect where
  | malformed
  | oversized (digits : Nat)
deriving DecidableEq, Repr

def Defect.message : Defect → String
  | malformed => "not a numeral"
  | oversized n => excessMessage (": value has " ++ Text.decimal n ++ " digits")

def signed : List Char → Bool × List Char
  | '-' :: s => (true, s)
  | '+' :: s => (false, s)
  | s => (false, s)

def isUnderscore (c : Char) : Bool := c == '_'

def dropUnderscores? (previous : Option Char) : List Char → Option (List Char)
  | [] => if previous.any isUnderscore then none else some []
  | c :: s =>
    if isUnderscore c then
      if previous.any Text.isDigit then dropUnderscores? (some c) s else none
    else if previous.any isUnderscore && !Text.isDigit c then none
    else (dropUnderscores? (some c) s).map (c :: ·)

def body? (s : List Char) : Option (List Char) :=
  dropUnderscores? none (Text.trim Text.isSpace s)

def whole? (s : List Char) : Option (Bool × List Nat) :=
  let (negative, digits) := signed s
  if digits.isEmpty then none else (digits.mapM Text.digitValue?).map (negative, ·)

def wholeValue : Bool × List Nat → Except Defect Int
  | (negative, digits) =>
    if maxDigits < digits.length then .error (.oversized digits.length)
    else .ok (if negative then -(Text.ofDigits digits : Int) else Text.ofDigits digits)

def readInt (s : List Char) : Except Defect Int :=
  match body? s >>= whole? with
  | some n => wholeValue n
  | none => .error .malformed

def takeDigits (s : List Char) : List Nat × List Char :=
  ((s.takeWhile Text.isDigit).filterMap Text.digitValue?, s.dropWhile Text.isDigit)

def power? : List Char → Option Int
  | [] => some 0
  | c :: s =>
    if c == 'e' || c == 'E' then
      (whole? s).map fun (negative, digits) =>
        if negative then -(Text.ofDigits digits : Int) else Text.ofDigits digits
    else none

def decimal? (negative : Bool) (s : List Char) : Option Binary64 :=
  let (whole, s) := takeDigits s
  let (fraction, s) := match s with
    | '.' :: s => takeDigits s
    | s => ([], s)
  let digits := whole ++ fraction
  if digits.isEmpty then none
  else (power? s).map fun power =>
    Binary64.ofDecimal negative (Text.ofDigits digits) (power - fraction.length)

def named? (negative : Bool) (s : List Char) : Option Binary64 :=
  let name := String.ofList (s.map Char.toLower)
  if name == "inf" || name == "infinity" then some (.infinite negative)
  else if name == "nan" then some .nan
  else none

def readReal? (s : List Char) : Option Binary64 := do
  let (negative, s) := signed (← body? s)
  named? negative s <|> decimal? negative s

end Numeral

end HttpTemplate
