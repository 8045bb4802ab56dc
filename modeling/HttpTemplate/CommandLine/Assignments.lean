import HttpTemplate.CommandLine.Options
import HttpTemplate.Node

/-!
Arguments as words `NAME=VALUE`. The first `=` ends the name; of a repeated name the last value
counts.
-/

namespace HttpTemplate.CommandLine

def assignment (item : String) : Except UsageError (String × String) :=
  match Text.splitFirst '=' item.toList with
  | (name, some value) =>
    if name.isEmpty then .error (.badAssignment item)
    else .ok (String.ofList name, String.ofList value)
  | _ => .error (.badAssignment item)

def pairs : List String → Except UsageError (List (String × String))
  | [] => .ok []
  | item :: items => do
    let first ← assignment item
    let rest ← pairs items
    return first :: rest

def assignments (items : List String) : Except UsageError (Entries String String) :=
  (pairs items).map Entries.ofPairs

def argumentsOf (values : Entries String String) : Arguments :=
  .map (values.map fun (name, text) => (.str name, .str text))

end HttpTemplate.CommandLine
