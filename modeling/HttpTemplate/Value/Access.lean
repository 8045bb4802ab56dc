import HttpTemplate.Misuse
import HttpTemplate.Text.Split
import HttpTemplate.Value

/-!
Values used as texts and as containers: what writing, iteration, look-up and conversion to a mapping
give, and the misuse that prevents them.
-/

namespace HttpTemplate.Value

def written (v : Value) : Except Misuse String :=
  if v.isWritable then .ok v.text else .error .oversized

theorem written_bind {ε α : Type} (v : Value) (f : Misuse → ε) (make : String → Except ε α) :
    (v.written.mapError f >>= make) =
      if v.isWritable then make v.text else .error (f .oversized) := by
  rw [written]
  split <;> rfl

def elements? : Value → Option (List Value)
  | list vs => some vs
  | tuple vs => some vs
  | map es => some (Entries.keys es)
  | str s => some (s.toList.map fun c => str (String.singleton c))
  | bytes bs => some (bs.map fun b => int b.toNat)
  | _ => none

def elements (v : Value) : Except Misuse (List Value) :=
  match v.elements? with
  | some vs => .ok vs
  | none => .error (.notIterable v.typeName)

mutual

def keyFlaw? : Value → Option String
  | list _ => some "list"
  | map _ => some "dict"
  | tuple vs => keyFlawIn? vs
  | _ => none

def keyFlawIn? : List Value → Option String
  | [] => none
  | v :: vs => v.keyFlaw? <|> keyFlawIn? vs

end

def checkKey (k : Value) : Except Misuse Unit :=
  match k.keyFlaw? with
  | some typeName => .error (.unhashable typeName)
  | none => .ok ()

def tableOf (pairs : List (Value × Value)) : Except Misuse Table := do
  pairs.forM fun (k, _) => k.checkKey
  return Entries.ofPairs pairs

def pairAt (position : Nat) (v : Value) : Except Misuse (Value × Value) :=
  match v.elements? with
  | none => .error (.notSequence position)
  | some [k, w] => do
    k.checkKey
    return (k, w)
  | some vs => .error (.notPair position vs.length)

def pairsFrom (position : Nat) : List Value → Except Misuse (List (Value × Value))
  | [] => .ok []
  | v :: vs => do
    let first ← pairAt position v
    let rest ← pairsFrom (position + 1) vs
    return first :: rest

def attribute? (v : Value) (name : String) : Option Value :=
  match v with
  | record _ attributes => Entries.get? name attributes
  | _ => none

/-- The mapping that a mapping or a sequence of pairs stands for. An object that has `keys` is asked
for them, and what it has there is no method. -/
def toTable : Value → Except Misuse Table
  | map es => .ok es
  | v =>
    match v.attribute? "keys" with
    | some w => .error (.notCallable w.typeName)
    | none => do return Entries.ofPairs (← pairsFrom 0 (← v.elements))

def table? (v : Value) : Option Table := v.toTable.toOption

def noMethod (v : Value) (name : String) : Misuse :=
  match v.attribute? name with
  | some w => .notCallable w.typeName
  | none => .noMember v.typeName name

def members : Value → Except Misuse Table
  | map es => .ok es
  | pairing pairs => .ok pairs
  | v => .error (v.noMethod "items")

def entries (v : Value) : Except Misuse Table := if v.truthy then v.members else .ok []

/-- What a value holds under a name, if anything. Only mappings hold values under names; other
containers may hold the name itself. -/
def lookup (v : Value) (name : String) : Except Misuse (Option Value) :=
  match v with
  | map es => .ok (Entries.get? (str name) es)
  | list vs | tuple vs =>
    if vs.contains (str name) then .error (.nameAsIndex v.typeName) else .ok none
  | str s => if Text.mentions s name then .error (.nameAsIndex v.typeName) else .ok none
  | bytes _ => .error .bytesExpected
  | v => .error (.notContainer v.typeName)

def textsFrom (position : Nat) : List Value → Except Misuse (List String)
  | [] => .ok []
  | str s :: vs => do return s :: (← textsFrom (position + 1) vs)
  | v :: _ => .error (.notText position v.typeName)

end HttpTemplate.Value
