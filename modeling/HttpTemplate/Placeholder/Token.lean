/-!
What a template text is made of: literal text and variables.
-/

namespace HttpTemplate

inductive Kind where
  | string
  | number
  | boolean
deriving DecidableEq, Repr

def Kind.name : Kind → String
  | string => "string"
  | number => "number"
  | boolean => "boolean"

structure Variable where
  name : String
  required : Bool := false
  default : Option String := none
  kind : Kind := .string
deriving DecidableEq, Repr

def Variable.named? (v : Variable) : Option Variable := if v.name = "" then none else some v

inductive Token where
  | literal (text : String)
  | placeholder (v : Variable)
deriving DecidableEq, Repr

def Token.variable? : Token → Option Variable
  | literal _ => none
  | placeholder v => some v

end HttpTemplate
