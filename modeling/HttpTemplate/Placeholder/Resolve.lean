import HttpTemplate.Number.Numeral
import HttpTemplate.Placeholder.Token
import HttpTemplate.Text.Case
import HttpTemplate.Value.Access

/-!
The value of one variable. An argument comes first, also when it is null, then the default; without
either a required variable is an error and any other is the empty string. Values of numbers and
booleans are brought to their kind.
-/

namespace HttpTemplate

/-- A mapping from names to values. Any other value answers look-ups as its type does. -/
abbrev Arguments := Value

inductive VariableFault where
  | missing (name : String)
  | uncoercible (name : String) (value : Value) (kind : Kind)
  | oversized (digits : Nat)
  | misuse (cause : Misuse)
deriving Repr

def VariableFault.message : VariableFault → String
  | missing name => "Missing required variable: " ++ name
  | uncoercible name value kind =>
    "Variable " ++ Text.quoted name ++ " cannot be coerced to " ++ kind.name ++ ": " ++
      value.literal
  | oversized digits => (Numeral.Defect.oversized digits).message
  | misuse cause => cause.message

namespace Variable

def finite (v : Variable) (value : Value) (x : Binary64) : Except VariableFault Value :=
  if x.isFinite then .ok (.float x) else .error (.uncoercible v.name value v.kind)

def coerceText (v : Variable) (value : Value) (text : List Char) : Except VariableFault Value :=
  match Numeral.whole? text with
  | some digits =>
    match Numeral.wholeValue digits with
    | .ok n => .ok (.int n)
    | .error (.oversized k) => .error (.oversized k)
    | .error .malformed => .error (.uncoercible v.name value v.kind)
  | none =>
    match Numeral.readReal? text with
    | some x => v.finite value x
    | none => .error (.uncoercible v.name value v.kind)

def coerceNumber (v : Variable) : Value → Except VariableFault Value
  | .bool b => .error (.uncoercible v.name (.bool b) v.kind)
  | .int n => .ok (.int n)
  | .float x => v.finite (.float x) x
  | value => do
    let text ← value.written.mapError .misuse
    v.coerceText value (Text.trim Text.isBlank text.toList)

@[simp] theorem coerceNumber_str (v : Variable) (s : String) :
    v.coerceNumber (.str s) = v.coerceText (.str s) (Text.trim Text.isBlank s.toList) := rfl

def coerceBoolean : Value → Except VariableFault Value
  | .bool b => .ok (.bool b)
  | value => do
    let text ← value.written.mapError .misuse
    return .bool (Text.lower (Text.strip text) == "true")

@[simp] theorem coerceBoolean_str (s : String) :
    coerceBoolean (.str s) = .ok (.bool (Text.lower (Text.strip s) == "true")) := rfl

def coerce (v : Variable) (value : Value) : Except VariableFault Value :=
  if value.isNull then .ok .null
  else match v.kind with
    | .number => v.coerceNumber value
    | .boolean => coerceBoolean value
    | .string => .ok value

def resolve (v : Variable) (arguments : Arguments) : Except VariableFault Value :=
  match arguments.lookup v.name, v.default with
  | .error cause, _ => .error (.misuse cause)
  | .ok (some value), _ => v.coerce value
  | .ok none, some text => v.coerce (.str text)
  | .ok none, none =>
    if v.required then .error (.missing v.name)
    else if v.kind = .number then .ok (.str "")
    else v.coerce (.str "")

end Variable

end HttpTemplate
