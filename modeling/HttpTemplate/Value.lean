import HttpTemplate.Entries
import HttpTemplate.Number.Numeral
import HttpTemplate.Number.Shortest
import HttpTemplate.Text.Quoted

/-!
The dynamic values that templates, arguments and bodies are made of, and their two texts: `literal`
shows a value with its type, `text` shows a string as itself and all else as `literal` does. A value
with a whole number of too many digits has neither; `isWritable` tells which values have them.
-/

namespace HttpTemplate

structure Attachment where
  field : String
  path : String
deriving DecidableEq, Repr

/-- How an object shows: the name of its type, and its text alone and within a container. -/
structure Appearance where
  typeName : String := "object"
  text : String := "<object>"
  literal : String := "<object>"
deriving DecidableEq, Repr

/-- Data are the values up to `map`. A `record` has attributes and a `pairing` yields pairs, but
neither is a mapping; an `attachment` may stand in a list of attachments. -/
inductive Value where
  | null
  | bool (b : Bool)
  | int (n : Int)
  | float (x : Binary64)
  | str (s : String)
  | bytes (bs : List UInt8)
  | list (items : List Value)
  | tuple (items : List Value)
  | map (entries : List (Value × Value))
  | record (look : Appearance) (attributes : List (String × Value))
  | pairing (pairs : List (Value × Value))
  | attachment (a : Attachment)
deriving Repr, Inhabited

abbrev Table := Entries Value Value

namespace Value

inductive Numeric where
  | whole (n : Int)
  | real (x : Binary64)

def Numeric.equals : Numeric → Numeric → Bool
  | whole m, whole n => m == n
  | whole m, real x => x.equalsInt m
  | real x, whole n => x.equalsInt n
  | real x, real y => x.equals y

def numeric? : Value → Option Numeric
  | bool b => some (.whole (if b then 1 else 0))
  | int n => some (.whole n)
  | float x => some (.real x)
  | _ => none

def scalarEquals : Value → Value → Bool
  | null, null => true
  | str s, str t => s == t
  | bytes s, bytes t => s == t
  | attachment a, attachment b => a == b
  | v, w =>
    match v.numeric?, w.numeric? with
    | some m, some n => m.equals n
    | _, _ => false

mutual

def keyEquals : Value → Value → Bool
  | tuple vs, tuple ws => keysEqual vs ws
  | v, w => scalarEquals v w

def keysEqual : List Value → List Value → Bool
  | [], [] => true
  | v :: vs, w :: ws => keyEquals v w && keysEqual vs ws
  | _, _ => false

end

instance : BEq Value := ⟨keyEquals⟩

@[simp] theorem str_beq_str (s t : String) : (str s == str t) = (s == t) := by
  simp [BEq.beq, keyEquals, scalarEquals]

theorem beq_str_iff {v : Value} {s : String} : (v == str s) = true ↔ v = str s := by
  cases v <;> simp [BEq.beq, keyEquals, scalarEquals, numeric?]

theorem str_beq_iff {v : Value} {s : String} : (str s == v) = true ↔ v = str s := by
  cases v <;> simp [BEq.beq, keyEquals, scalarEquals, numeric?, eq_comm]

def truthy : Value → Bool
  | null => false
  | bool b => b
  | int n => n != 0
  | float x => !x.isZero
  | str s => s != ""
  | bytes bs => !bs.isEmpty
  | list vs => !vs.isEmpty
  | tuple vs => !vs.isEmpty
  | map es => !es.isEmpty
  | record _ _ | pairing _ | attachment _ => true

def isNull : Value → Bool
  | null => true
  | _ => false

theorem isNull_iff {v : Value} : v.isNull = true ↔ v = null := by
  cases v <;> simp [isNull]

def typeName : Value → String
  | null => "NoneType"
  | bool _ => "bool"
  | int _ => "int"
  | float _ => "float"
  | str _ => "str"
  | bytes _ => "bytes"
  | list _ => "list"
  | tuple _ => "tuple"
  | map _ => "dict"
  | record look _ => look.typeName
  | pairing _ => "object"
  | attachment _ => "Attachment"

def boolText (b : Bool) : String := if b then "True" else "False"

mutual

def literal : Value → String
  | null => "None"
  | bool b => boolText b
  | int n => Text.decimalInt n
  | float x => x.text
  | str s => Text.quoted s
  | bytes bs => Text.quotedBytes bs
  | list vs => "[" ++ ", ".intercalate (literals vs) ++ "]"
  | tuple [v] => "(" ++ v.literal ++ ",)"
  | tuple vs => "(" ++ ", ".intercalate (literals vs) ++ ")"
  | map es => "\x7b" ++ ", ".intercalate (entryLiterals es) ++ "\x7d"
  | record look _ => look.literal
  | pairing _ => "<object>"
  | attachment a =>
    "Attachment(field=" ++ Text.quoted a.field ++ ", path=" ++ Text.quoted a.path ++ ")"

def literals : List Value → List String
  | [] => []
  | v :: vs => v.literal :: literals vs

def entryLiterals : List (Value × Value) → List String
  | [] => []
  | (k, v) :: es => (k.literal ++ ": " ++ v.literal) :: entryLiterals es

end

def text : Value → String
  | str s => s
  | record look _ => look.text
  | v => v.literal

mutual

def isWritable : Value → Bool
  | int n => Numeral.isWritable n
  | list vs | tuple vs => allWritable vs
  | map es => entriesWritable es
  | _ => true

def allWritable : List Value → Bool
  | [] => true
  | v :: vs => v.isWritable && allWritable vs

def entriesWritable : List (Value × Value) → Bool
  | [] => true
  | (k, v) :: es => k.isWritable && v.isWritable && entriesWritable es

end

theorem allWritable_iff {vs : List Value} :
    allWritable vs = true ↔ ∀ v ∈ vs, v.isWritable = true := by
  induction vs with
  | nil => simp [allWritable]
  | cons v vs ih => simp [allWritable, ih]

theorem entriesWritable_iff {es : List (Value × Value)} :
    entriesWritable es = true ↔ ∀ e ∈ es, e.1.isWritable = true ∧ e.2.isWritable = true := by
  induction es with
  | nil => simp [entriesWritable]
  | cons e es ih => simp [entriesWritable, ih]

/-- The text of a value inside other text: nothing for null, lower case for truth values. -/
def render : Value → String
  | null => ""
  | bool b => if b then "true" else "false"
  | v => v.text

end Value

end HttpTemplate
