import HttpTemplate.Placeholder.Resolve
import HttpTemplate.Placeholder.Scan

/-!
Template structures. Compiling reads every string of a value once; substituting puts values for the
variables and gives back a value of the same shape. A text that is one variable takes the value
itself, any other text takes its rendering.
-/

namespace HttpTemplate

structure Leaf where
  source : String
  tokens : List Token
deriving DecidableEq, Repr

inductive Node where
  | leaf (l : Leaf)
  | map (entries : List (Value × Node))
  | list (items : List Node)
  | scalar (v : Value)
deriving Repr, Inhabited

namespace Leaf

def ofText (text : String) : Leaf := ⟨text, Placeholder.parse text⟩

def occurrences (l : Leaf) : List Variable := l.tokens.filterMap Token.variable?

def single? (l : Leaf) : Option Variable :=
  match l.tokens with
  | [.placeholder v] => some v
  | _ => none

def renderToken (arguments : Arguments) : Token → Except VariableFault String
  | .literal text => .ok text
  | .placeholder v => (v.resolve arguments).map Value.render

def renderTokens (arguments : Arguments) : List Token → Except VariableFault String
  | [] => .ok ""
  | t :: ts => do
    let text ← renderToken arguments t
    let rest ← renderTokens arguments ts
    return text ++ rest

def substitute (l : Leaf) (arguments : Arguments) : Except VariableFault Value :=
  match l.single? with
  | some v => v.resolve arguments
  | none => (renderTokens arguments l.tokens).map .str

end Leaf

namespace Node

mutual

def compile : Value → Node
  | .str text => .leaf (.ofText text)
  | .map entries => .map (compileEntries entries)
  | .list items => .list (compileAll items)
  | .tuple items => .list (compileAll items)
  | v => .scalar v

def compileAll : List Value → List Node
  | [] => []
  | v :: vs => compile v :: compileAll vs

def compileEntries : List (Value × Value) → List (Value × Node)
  | [] => []
  | (k, v) :: es => (k, compile v) :: compileEntries es

end

mutual

def substitute (arguments : Arguments) : Node → Except VariableFault Value
  | leaf l => l.substitute arguments
  | map entries => do return .map (← substituteEntries arguments entries)
  | list items => do return .list (← substituteAll arguments items)
  | scalar v => .ok v

def substituteAll (arguments : Arguments) : List Node → Except VariableFault (List Value)
  | [] => .ok []
  | n :: ns => do
    let v ← substitute arguments n
    let vs ← substituteAll arguments ns
    return v :: vs

def substituteEntries (arguments : Arguments) :
    List (Value × Node) → Except VariableFault (List (Value × Value))
  | [] => .ok []
  | (k, n) :: es => do
    let v ← substitute arguments n
    let vs ← substituteEntries arguments es
    return (k, v) :: vs

end

mutual

def occurrences : Node → List Variable
  | leaf l => l.occurrences
  | map entries => occurrencesInEntries entries
  | list items => occurrencesInAll items
  | scalar _ => []

def occurrencesInAll : List Node → List Variable
  | [] => []
  | n :: ns => n.occurrences ++ occurrencesInAll ns

def occurrencesInEntries : List (Value × Node) → List Variable
  | [] => []
  | (_, n) :: es => n.occurrences ++ occurrencesInEntries es

end

end Node

end HttpTemplate
