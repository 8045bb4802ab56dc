import HttpTemplate.Json.Write

/-!
Queries and forms as pairs of texts. In a query the names of nested mappings go into brackets, a
list repeats its name and null is left out; a container that is an item of a list is written as
JSON.
-/

namespace HttpTemplate

namespace Query

def fieldText (v : Value) : Except Json.WriteFault String :=
  match v with
  | .map _ | .list _ | .tuple _ => Json.write .strict v
  | v => .ok v.render

def nested (outer : String) (key : Value) : String :=
  if outer = "" then key.text else outer ++ "[" ++ key.text ++ "]"

def flattenItems (name : String) :
    List Value → Except Json.WriteFault (List (String × String))
  | [] => .ok []
  | v :: vs =>
    if v.isNull then flattenItems name vs
    else do
      let text ← fieldText v
      let rest ← flattenItems name vs
      return (name, text) :: rest

mutual

def flattenValue (name : String) : Value → Except Json.WriteFault (List (String × String))
  | .null => .ok []
  | .map entries => flattenEntries name entries
  | .list items | .tuple items => flattenItems name items
  | v => .ok [(name, v.render)]

def flattenEntries (outer : String) :
    List (Value × Value) → Except Json.WriteFault (List (String × String))
  | [] => .ok []
  | (k, v) :: rest => do
    let first ← flattenValue (nested outer k) v
    let others ← flattenEntries outer rest
    return first ++ others

end

def flatten (query : Table) : Except Json.WriteFault (List (String × String)) :=
  flattenEntries "" query

end Query

end HttpTemplate
