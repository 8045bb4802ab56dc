import HttpTemplate.Template

/-!
Operations: a list of parameter names by which a template is called with values in their order.
-/

namespace HttpTemplate

structure Operation where
  names : List String
deriving DecidableEq, Repr

namespace Operation

def spread : List Value → List Value
  | [.str s] => [.str s]
  | [v] => v.elements?.getD [v]
  | names => names

def ofNames (names : List Value) : Operation := ⟨(spread names).map Value.text⟩

def bind (names values : List Value) : Except Fault Arguments :=
  if names.length < values.length then .error (.tooManyValues names.length values.length)
  else ((Value.tableOf (names.zip values)).map Value.map).mapError Fault.misuse

def arguments (o : Operation) (values : List Value) : Except Fault Arguments :=
  bind (o.names.map Value.str) values

def describe (names : List String) : String := "Operation(" ++ ", ".intercalate names ++ ")"

def description (o : Operation) : String := describe o.names

def describeValues (names : List Value) : Except Fault String :=
  ((Value.textsFrom 0 names).map describe).mapError Fault.misuse

end Operation

end HttpTemplate
