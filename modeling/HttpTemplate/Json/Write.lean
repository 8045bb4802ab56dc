import HttpTemplate.Json.Sort

/-!
Values written as JSON. All characters outside printable ASCII are escaped. Mapping keys may be
strings, numbers, truth values and null, which are written as strings; values of any other type
have no JSON form, nor have whole numbers of too many digits, and what is not a finite number is
written only where the format asks for it. A format may ask for keys that have an order.
-/

namespace HttpTemplate.Json

inductive WriteFault where
  | notFinite
  | unwritable (typeName : String)
  | badKey (typeName : String)
  | misuse (cause : Misuse)
deriving DecidableEq, Repr

def WriteFault.message : WriteFault → String
  | notFinite => "Out of range float values are not JSON compliant"
  | unwritable typeName => "Object of type " ++ typeName ++ " is not JSON serializable"
  | badKey typeName => "keys must be str, int, float, bool or None, not " ++ typeName
  | misuse cause => cause.message

structure Spacing where
  before : Nat → String
  between : Nat → String
  after : Nat → String

def Spacing.line : Spacing := ⟨fun _ => "", fun _ => ", ", fun _ => ""⟩

def Spacing.newline (width depth : Nat) : String :=
  String.ofList ('\n' :: List.replicate (width * depth) ' ')

def Spacing.indented (width : Nat) : Spacing where
  before depth := newline width (depth + 1)
  between depth := "," ++ newline width (depth + 1)
  after depth := newline width depth

structure Format where
  spacing : Spacing
  allowNotFinite : Bool
  needsOrder : Bool

namespace Format

def strict : Format := ⟨.line, false, false⟩

def lenient : Format := ⟨.line, true, false⟩

def pretty : Format := ⟨.indented 2, true, true⟩

def checkOrder (f : Format) (entries : List (Value × Value)) : Except WriteFault Unit :=
  if f.needsOrder then ((inOrder entries).map fun _ => ()).mapError .misuse else .ok ()

end Format

def unicodeEscape (n : Nat) : List Char := '\\' :: 'u' :: Text.hex 4 n

def escapeCode (n : Nat) : List Char :=
  if n < 0x10000 then unicodeEscape n
  else
    unicodeEscape (0xd800 + (n - 0x10000) / 0x400) ++
      unicodeEscape (0xdc00 + (n - 0x10000) % 0x400)

def escapeChar (c : Char) : List Char :=
  match c with
  | '\x22' => ['\\', '\x22']
  | '\\' => ['\\', '\\']
  | '\n' => ['\\', 'n']
  | '\r' => ['\\', 'r']
  | '\t' => ['\\', 't']
  | '\x0c' => ['\\', 'f']
  | '\x08' => ['\\', 'b']
  | c => if 0x20 ≤ c.toNat ∧ c.toNat < 0x7f then [c] else escapeCode c.toNat

def string (s : String) : String :=
  String.ofList ('\x22' :: (s.toList.flatMap escapeChar ++ ['\x22']))

def real (f : Format) : Binary64 → Except WriteFault String
  | x@(.finite _ _ _) => .ok x.text
  | .nan => if f.allowNotFinite then .ok "NaN" else .error .notFinite
  | .infinite negative =>
    if f.allowNotFinite then .ok (Binary64.sign negative "Infinity") else .error .notFinite

def whole (n : Int) : Except WriteFault String :=
  if Numeral.isWritable n then .ok (Text.decimalInt n) else .error (.misuse .oversized)

def keyText (f : Format) : Value → Except WriteFault String
  | .str s => .ok s
  | .float x => real f x
  | .bool b => .ok (if b then "true" else "false")
  | .null => .ok "null"
  | .int n => whole n
  | v => .error (.badKey v.typeName)

def wrap (s : Spacing) (depth : Nat) (opening closing : String) (members : List String) : String :=
  if members.isEmpty then opening ++ closing
  else
    opening ++ s.before depth ++ (s.between depth).intercalate members ++ s.after depth ++ closing

mutual

def writeAt (f : Format) (depth : Nat) : Value → Except WriteFault String
  | .null => .ok "null"
  | .bool b => .ok (if b then "true" else "false")
  | .int n => whole n
  | .float x => real f x
  | .str s => .ok (string s)
  | .list vs | .tuple vs => do return wrap f.spacing depth "[" "]" (← writeAll f (depth + 1) vs)
  | .map es => do
    f.checkOrder es
    return wrap f.spacing depth "\x7b" "\x7d" (← writeEntries f (depth + 1) es)
  | v => .error (.unwritable v.typeName)

def writeAll (f : Format) (depth : Nat) : List Value → Except WriteFault (List String)
  | [] => .ok []
  | v :: vs => do
    let s ← writeAt f depth v
    let rest ← writeAll f depth vs
    return s :: rest

def writeEntries (f : Format) (depth : Nat) : List (Value × Value) → Except WriteFault (List String)
  | [] => .ok []
  | (k, v) :: es => do
    let key ← keyText f k
    let s ← writeAt f depth v
    let rest ← writeEntries f depth es
    return (string key ++ ": " ++ s) :: rest

end

def write (f : Format) (v : Value) : Except WriteFault String := writeAt f 0 v

end HttpTemplate.Json
