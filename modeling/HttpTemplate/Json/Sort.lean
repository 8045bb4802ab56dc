import HttpTemplate.Misuse
import HttpTemplate.Value

/-!
Mappings in the order of their keys: texts by code points, numbers and truth values by numeric
value, bytes and tuples member by member. Keys of two kinds have no order. Which two of them are
found to have none depends on which are compared, so the comparisons are fixed: neighbours from the
front as long as they rise or fall, then each further entry with the middle of those before it.
-/

namespace HttpTemplate.Json

/-- A number as a quotient, below or above all others when it is infinite. -/
def magnitude? : Value.Numeric → Option (Int × Int × Nat)
  | .whole n => some (0, n, 1)
  | .real (.finite negative m e) =>
    let (n, d) := Binary64.scale m 1 (-e)
    some (0, if negative then -(n : Int) else n, d)
  | .real (.infinite negative) => some (if negative then -1 else 1, 0, 1)
  | .real .nan => none

def numericLt (a b : Value.Numeric) : Bool :=
  match magnitude? a, magnitude? b with
  | some (i, m, c), some (j, n, d) => i < j || (i == j && m * d < n * c)
  | _, _ => false

mutual

def precedes : Value → Value → Except Misuse Bool
  | .str s, .str t => .ok (s < t)
  | .bytes s, .bytes t => .ok (s < t)
  | .tuple vs, .tuple ws => precedesIn vs ws
  | v, w =>
    match v.numeric?, w.numeric? with
    | some a, some b => .ok (numericLt a b)
    | _, _ => .error (.incomparable "<" v.typeName w.typeName)

def precedesIn : List Value → List Value → Except Misuse Bool
  | [], ws => .ok (!ws.isEmpty)
  | _ :: _, [] => .ok false
  | v :: vs, w :: ws => if v == w then precedesIn vs ws else precedes v w

end

def rising (k : Value) :
    List (Value × Value) → Except Misuse (List (Value × Value) × List (Value × Value))
  | [] => .ok ([], [])
  | e :: rest => do
    if ← precedes e.1 k then return ([], e :: rest)
    else
      let (run, rest) ← rising e.1 rest
      return (e :: run, rest)

/-- The entries that go on falling from the key `k`, in front of `run` the last one first, and the
rest. -/
def falling (run : List (Value × Value)) (k : Value) :
    List (Value × Value) → Except Misuse (List (Value × Value) × List (Value × Value))
  | [] => .ok (run, [])
  | e :: rest => do
    if ← precedes e.1 k then falling (e :: run) e.1 rest
    else return (run, e :: rest)

def firstRun :
    List (Value × Value) → Except Misuse (List (Value × Value) × List (Value × Value))
  | e :: f :: rest => do
    if ← precedes f.1 e.1 then falling [f, e] f.1 rest
    else
      let (run, rest) ← rising f.1 rest
      return (e :: f :: run, rest)
  | entries => .ok (entries, [])

/-- Puts an entry into its place among sorted ones, after those that it does not precede. -/
def insert (e : Value × Value) (sorted : List (Value × Value)) :
    Except Misuse (List (Value × Value)) :=
  match _h : sorted.drop (sorted.length / 2) with
  | [] => .ok [e]
  | middle :: after => do
    let before := sorted.take (sorted.length / 2)
    if ← precedes e.1 middle.1 then return (← insert e before) ++ middle :: after
    else return before ++ middle :: (← insert e after)
termination_by sorted.length
decreasing_by
  all_goals
    have := congrArg List.length _h
    simp only [List.length_drop, List.length_cons, List.length_take] at this ⊢
    omega

def isText : Value → Bool
  | .str _ => true
  | _ => false

def textLe (k l : Value) : Bool :=
  match k, l with
  | .str s, .str t => s ≤ t
  | _, _ => true

def inOrder (entries : List (Value × Value)) : Except Misuse (List (Value × Value)) :=
  if entries.all (isText ·.1) then .ok (entries.mergeSort fun a b => textLe a.1 b.1)
  else do
    let (run, rest) ← firstRun entries
    rest.foldlM (fun sorted e => insert e sorted) run

mutual

/-- The value with the members of every mapping in the order of their keys; a mapping whose keys
have no order stays as it is. -/
def sortKeys : Value → Value
  | .list vs => .list (sortAll vs)
  | .tuple vs => .tuple (sortAll vs)
  | .map es =>
    let es := sortEntries es
    .map ((inOrder es).toOption.getD es)
  | v => v

def sortAll : List Value → List Value
  | [] => []
  | v :: vs => sortKeys v :: sortAll vs

def sortEntries : List (Value × Value) → List (Value × Value)
  | [] => []
  | (k, v) :: es => (k, sortKeys v) :: sortEntries es

end

end HttpTemplate.Json
