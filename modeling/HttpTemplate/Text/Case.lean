import HttpTemplate.Text.CaseTable
import HttpTemplate.Text.Interval

/-!
Full case mapping. A character goes to one or more characters, on its own except for the capital
sigma, whose lower-case form depends on whether it ends a word.
-/

namespace HttpTemplate.Text

def CaseRun.covers (r : CaseRun) (n : Nat) : Bool :=
  r.first ≤ n && n ≤ r.last && (n - r.first) % r.stride == 0

def shiftBy (runs : List CaseRun) (c : Char) : Char :=
  match runs.find? (·.covers c.toNat) with
  | some r => Char.ofNat (c.toNat + r.shift).toNat
  | none => c

def isCased (c : Char) : Bool := inIntervals casedIntervals c.toNat

def isCaseIgnorable (c : Char) : Bool := inIntervals caseIgnorableIntervals c.toNat

/-- A cased character stands before and none after, case-ignorable characters apart; `before` is
read backwards. -/
def endsWord (before after : List Char) : Bool :=
  (before.dropWhile isCaseIgnorable).head?.any isCased &&
    !(after.dropWhile isCaseIgnorable).head?.any isCased

def lowerChar (before : List Char) (c : Char) (after : List Char) : List Char :=
  if c.toNat = 0x130 then ['i', '\u0307']
  else if c.toNat = 0x3a3 then [if endsWord before after then 'ς' else 'σ']
  else [shiftBy lowerRuns c]

def lowerFrom (before : List Char) : List Char → List Char
  | [] => []
  | c :: after => lowerChar before c after ++ lowerFrom (c :: before) after

def upperChar (c : Char) : List Char :=
  match upperSequences.lookup c.toNat with
  | some s => s.map Char.ofNat
  | none => [shiftBy upperRuns c]

def lower (s : String) : String := String.ofList (lowerFrom [] s.toList)

def upper (s : String) : String := String.ofList (s.toList.flatMap upperChar)

end HttpTemplate.Text
