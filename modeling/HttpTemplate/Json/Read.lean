import HttpTemplate.Number.Numeral
import HttpTemplate.Value

/-!
JSON text read into values. Whole numbers have any size up to the digit limit, other numbers are
binary reals, and `NaN`, `Infinity` and `-Infinity` are read too. Texts hold scalar values only: an
escape for a surrogate that has no partner is read as U+FFFD. Of members with the same name the last
one counts, in the place of the first. Every refusal names its cause and its place.
-/

namespace HttpTemplate.Json

inductive Cause where
  | value
  | name
  | colon
  | comma
  | openString
  | control
  | escape
  | unicodeEscape
  | extra
  | byteOrderMark
deriving DecidableEq, Repr

def Cause.message : Cause → String
  | value => "Expecting value"
  | name => "Expecting property name enclosed in double quotes"
  | colon => "Expecting ':' delimiter"
  | comma => "Expecting ',' delimiter"
  | openString => "Unterminated string starting at"
  | control => "Invalid control character at"
  | escape => "Invalid \\escape"
  | unicodeEscape => "Invalid \\uXXXX escape"
  | extra => "Extra data"
  | byteOrderMark => "Unexpected UTF-8 BOM (decode using utf-8-sig)"

/-- What stops a reader: a cause, and the text that is left where it was found; or a whole number
with too many digits. -/
inductive Stop where
  | malformed (cause : Cause) (rest : List Char)
  | oversized (digits : Nat)
deriving DecidableEq, Repr

abbrev Reading := Except Stop

def isSpace (c : Char) : Bool := c == ' ' || c == '\t' || c == '\n' || c == '\r'

def skipSpace (s : List Char) : List Char := s.dropWhile isSpace

def isDigit (c : Char) : Bool := '0' ≤ c && c ≤ '9'

def hexValue? (c : Char) : Option Nat :=
  let n := c.toNat
  if '0' ≤ c ∧ c ≤ '9' then some (n - 0x30)
  else if 'a' ≤ c ∧ c ≤ 'f' then some (n - 0x57)
  else if 'A' ≤ c ∧ c ≤ 'F' then some (n - 0x37)
  else none

/-- Four hexadecimal digits that are not the last thing in the text, and the text after them. -/
def codeUnit? : List Char → Option (Nat × List Char)
  | a :: b :: c :: d :: e :: s => do
    let n := (← hexValue? a) * 0x1000 + (← hexValue? b) * 0x100 + (← hexValue? c) * 0x10 +
      (← hexValue? d)
    return (n, e :: s)
  | _ => none

def isHigh (n : Nat) : Bool := 0xd800 ≤ n && n ≤ 0xdbff

def isLow (n : Nat) : Bool := 0xdc00 ≤ n && n ≤ 0xdfff

def charOf (n : Nat) : Char := if isHigh n || isLow n then '\ufffd' else Char.ofNat n

def unicodeChar (s : List Char) : Reading (Char × List Char) :=
  match s with
  | 'u' :: t =>
    match codeUnit? t with
    | none => .error (.malformed .unicodeEscape s)
    | some (high, '\\' :: 'u' :: r) =>
      if isHigh high && 5 ≤ r.length then
        match codeUnit? r with
        | none => .error (.malformed .unicodeEscape ('u' :: r))
        | some (low, r') =>
          if isLow low then
            .ok (Char.ofNat (0x10000 + (high - 0xd800) * 0x400 + (low - 0xdc00)), r')
          else .ok (charOf high, '\\' :: 'u' :: r)
      else .ok (charOf high, '\\' :: 'u' :: r)
    | some (n, r) => .ok (charOf n, r)
  | s => .error (.malformed .escape s)

def plainEscape? : Char → Option Char
  | '\x22' => some '\x22'
  | '\\' => some '\\'
  | '/' => some '/'
  | 'b' => some '\x08'
  | 'f' => some '\x0c'
  | 'n' => some '\n'
  | 'r' => some '\r'
  | 't' => some '\t'
  | _ => none

/-- The characters up to the closing quote. `opening` is the text from the opening quote on. -/
def stringBody (opening : List Char) : Nat → List Char → Reading (List Char × List Char)
  | 0, _ => .error (.malformed .openString opening)
  | fuel + 1, s =>
    match s with
    | [] => .error (.malformed .openString opening)
    | '\x22' :: rest => .ok ([], rest)
    | '\\' :: [] => .error (.malformed .openString opening)
    | '\\' :: 'u' :: rest => do
      let (c, rest) ← unicodeChar ('u' :: rest)
      let (cs, rest) ← stringBody opening fuel rest
      return (c :: cs, rest)
    | '\\' :: c :: rest =>
      match plainEscape? c with
      | some c => do
        let (cs, rest) ← stringBody opening fuel rest
        return (c :: cs, rest)
      | none => .error (.malformed .escape s)
    | c :: rest =>
      if c.toNat ≤ 0x1f then .error (.malformed .control s)
      else do
        let (cs, rest) ← stringBody opening fuel rest
        return (c :: cs, rest)

def readString (s : List Char) : Reading (String × List Char) := do
  let (cs, rest) ← stringBody ('\x22' :: s) (s.length + 1) s
  return (String.ofList cs, rest)

def takeDigits (s : List Char) : List Char × List Char := (s.takeWhile isDigit, s.dropWhile isDigit)

def wholePart? : List Char → Option (List Char × List Char)
  | '0' :: s => some (['0'], s)
  | s => if (takeDigits s).1.isEmpty then none else some (takeDigits s)

def fractionPart : List Char → Option (List Char) × List Char
  | '.' :: s =>
    if (takeDigits s).1.isEmpty then (none, '.' :: s) else (some (takeDigits s).1, (takeDigits s).2)
  | s => (none, s)

def powerPart : List Char → Option Int × List Char
  | c :: s =>
    let (negative, t) := Numeral.signed s
    let (digits, rest) := takeDigits t
    if (c == 'e' || c == 'E') && !digits.isEmpty then
      let n : Int := Text.ofDigits (digits.filterMap Text.digitValue?)
      (some (if negative then -n else n), rest)
    else (none, c :: s)
  | [] => (none, [])

def number? (s : List Char) : Option (Except Nat Value × List Char) := do
  let (negative, s) := match s with
    | '-' :: t => (true, t)
    | t => (false, t)
  let (whole, s) ← wholePart? s
  let (fraction, s) := fractionPart s
  let (power, s) := powerPart s
  let digitsOf := List.filterMap Text.digitValue?
  match fraction, power with
  | none, none =>
    match Numeral.wholeValue (negative, digitsOf whole) with
    | .ok n => return (.ok (.int n), s)
    | .error _ => return (.error whole.length, s)
  | _, _ =>
    let fraction := fraction.getD []
    let digits := Text.ofDigits (digitsOf (whole ++ fraction))
    return (.ok (.float (.ofDecimal negative digits (power.getD 0 - fraction.length))), s)

def after? (word : List Char) (s : List Char) : Option (List Char) :=
  if word.isPrefixOf s then some (s.drop word.length) else none

def words : List (List Char × Value) :=
  [(['n', 'u', 'l', 'l'], .null),
    (['t', 'r', 'u', 'e'], .bool true),
    (['f', 'a', 'l', 's', 'e'], .bool false),
    (['N', 'a', 'N'], .float .nan),
    (['I', 'n', 'f', 'i', 'n', 'i', 't', 'y'], .float (.infinite false)),
    (['-', 'I', 'n', 'f', 'i', 'n', 'i', 't', 'y'], .float (.infinite true))]

def word? (s : List Char) : Option (Value × List Char) :=
  words.findSome? fun (word, v) => (after? word s).map (v, ·)

def scalar (s : List Char) : Reading (Value × List Char) :=
  match word? s with
  | some r => .ok r
  | none =>
    match number? s with
    | some (.ok v, rest) => .ok (v, rest)
    | some (.error digits, _) => .error (.oversized digits)
    | none => .error (.malformed .value s)

mutual

def readValue : Nat → List Char → Reading (Value × List Char)
  | 0, s => .error (.malformed .value s)
  | fuel + 1, s =>
    match s with
    | '\x22' :: t => do
      let (string, rest) ← readString t
      return (.str string, rest)
    | '[' :: t =>
      match skipSpace t with
      | ']' :: rest => .ok (.list [], rest)
      | t => do
        let (vs, rest) ← readItems fuel t
        return (.list vs, rest)
    | '{' :: t =>
      match skipSpace t with
      | '}' :: rest => .ok (.map [], rest)
      | t => do
        let (es, rest) ← readMembers fuel t
        return (.map (Entries.ofPairs es), rest)
    | s => scalar s

def readItems : Nat → List Char → Reading (List Value × List Char)
  | 0, s => .error (.malformed .value s)
  | fuel + 1, s => do
    let (v, rest) ← readValue fuel s
    match skipSpace rest with
    | ']' :: rest => return ([v], rest)
    | ',' :: rest =>
      let (vs, rest) ← readItems fuel (skipSpace rest)
      return (v :: vs, rest)
    | rest => .error (.malformed .comma rest)

def readMembers : Nat → List Char → Reading (List (Value × Value) × List Char)
  | 0, s => .error (.malformed .name s)
  | fuel + 1, s =>
    match s with
    | '\x22' :: t => do
      let (name, rest) ← readString t
      match skipSpace rest with
      | ':' :: rest =>
        let (v, rest) ← readValue fuel (skipSpace rest)
        match skipSpace rest with
        | '}' :: rest => return ([(.str name, v)], rest)
        | ',' :: rest =>
          let (es, rest) ← readMembers fuel (skipSpace rest)
          return ((.str name, v) :: es, rest)
        | rest => .error (.malformed .comma rest)
      | rest => .error (.malformed .colon rest)
    | s => .error (.malformed .name s)

end

def readText (s : List Char) : Reading Value :=
  match s with
  | '\ufeff' :: _ => .error (.malformed .byteOrderMark s)
  | s => do
    let (v, rest) ← readValue (2 * s.length + 2) (skipSpace s)
    match skipSpace rest with
    | [] => return v
    | rest => .error (.malformed .extra rest)

inductive ReadFault where
  | malformed (cause : Cause) (line column offset : Nat)
  | oversized (digits : Nat)
deriving DecidableEq, Repr

def ReadFault.message : ReadFault → String
  | malformed cause line column offset =>
    cause.message ++ ": line " ++ Text.decimal line ++ " column " ++ Text.decimal column ++
      " (char " ++ Text.decimal offset ++ ")"
  | oversized digits => (Numeral.Defect.oversized digits).message

/-- Lines and columns count from one, offsets from zero. -/
def locate (cause : Cause) (text rest : List Char) : ReadFault :=
  let read := text.take (text.length - rest.length)
  let column := (read.reverse.takeWhile (· != '\n')).length + 1
  .malformed cause (read.count '\n' + 1) column read.length

def read (text : String) : Except ReadFault Value :=
  match readText text.toList with
  | .ok v => .ok v
  | .error (.malformed cause rest) => .error (locate cause text.toList rest)
  | .error (.oversized digits) => .error (.oversized digits)

end HttpTemplate.Json
