import HttpTemplate.Text.Digit
import HttpTemplate.Text.Quoted

/-!
UTF-8. The decoder reads one byte at a time; between bytes it remembers the character it is in the
middle of. Bytes that begin no character are cut into the longest prefixes of a well-formed
character, and each such prefix is one `bad` piece.
-/

namespace HttpTemplate.Text.Utf8

inductive Reason where
  | start
  | continuation
  | truncated
deriving DecidableEq, Repr

inductive Piece where
  | char (c : Char)
  | bad (reason : Reason) (size : Nat)
deriving DecidableEq, Repr

/-- A character of which `seen` bytes have been read and give `value`; the next byte lies between
`low` and `high`, and `more` bytes follow it. -/
structure Pending where
  seen : Nat
  value : Nat
  low : Nat
  high : Nat
  more : Nat
deriving DecidableEq, Repr

def encodeChars (s : List Char) : List UInt8 := s.flatMap String.utf8EncodeChar

def encode (s : String) : List UInt8 := encodeChars s.toList

/-- What the first byte of a character announces, or nothing for a byte that begins none. -/
def lead? (n : Nat) : Option Pending :=
  if 0xc2 ≤ n ∧ n ≤ 0xdf then some ⟨1, n - 0xc0, 0x80, 0xbf, 0⟩
  else if n = 0xe0 then some ⟨1, 0, 0xa0, 0xbf, 1⟩
  else if n = 0xed then some ⟨1, 0xd, 0x80, 0x9f, 1⟩
  else if 0xe1 ≤ n ∧ n ≤ 0xef then some ⟨1, n - 0xe0, 0x80, 0xbf, 1⟩
  else if n = 0xf0 then some ⟨1, 0, 0x90, 0xbf, 2⟩
  else if 0xf1 ≤ n ∧ n ≤ 0xf3 then some ⟨1, n - 0xf0, 0x80, 0xbf, 2⟩
  else if n = 0xf4 then some ⟨1, 4, 0x80, 0x8f, 2⟩
  else none

def start (n : Nat) : List Piece × Option Pending :=
  if n < 0x80 then ([.char (Char.ofNat n)], none)
  else match lead? n with
    | some p => ([], some p)
    | none => ([.bad .start 1], none)

def Pending.step (p : Pending) (n : Nat) : List Piece × Option Pending :=
  if p.low ≤ n ∧ n ≤ p.high then
    let value := p.value * 64 + (n - 0x80)
    match p.more with
    | 0 => ([.char (Char.ofNat value)], none)
    | more + 1 => ([], some ⟨p.seen + 1, value, 0x80, 0xbf, more⟩)
  else
    let (out, next) := start n
    (.bad .continuation p.seen :: out, next)

def step : Option Pending → Nat → List Piece × Option Pending
  | none, n => start n
  | some p, n => p.step n

def finish : Option Pending → List Piece
  | none => []
  | some p => [.bad .truncated p.seen]

def piecesFrom (state : Option Pending) : List UInt8 → List Piece
  | [] => finish state
  | b :: rest => (step state b.toNat).1 ++ piecesFrom (step state b.toNat).2 rest

def pieces (bytes : List UInt8) : List Piece := piecesFrom none bytes

def Piece.replaced : Piece → Char
  | .char c => c
  | .bad _ _ => '\ufffd'

def decodeLossy (bytes : List UInt8) : String :=
  String.ofList ((pieces bytes).map Piece.replaced)

structure Defect where
  reason : Reason
  byte : UInt8
  offset : Nat
  size : Nat
deriving DecidableEq, Repr

def charsOrDefect (offset : Nat) : List UInt8 → List Piece → Except Defect (List Char)
  | _, [] => .ok []
  | bytes, .char c :: rest => do
    let cs ← charsOrDefect (offset + c.utf8Size) (bytes.drop c.utf8Size) rest
    return c :: cs
  | bytes, .bad reason size :: _ => .error ⟨reason, bytes.headD 0, offset, size⟩

def decode (bytes : List UInt8) : Except Defect String :=
  (charsOrDefect 0 bytes (pieces bytes)).map String.ofList

def Reason.message : Reason → String
  | start => "invalid start byte"
  | continuation => "invalid continuation byte"
  | truncated => "unexpected end of data"

def Defect.message (d : Defect) : String :=
  "'utf-8' codec can't decode " ++
    (if d.size = 1 then
      "byte 0x" ++ String.ofList (hex 2 d.byte.toNat) ++ " in position " ++ decimal d.offset
    else "bytes in position " ++ decimal d.offset ++ "-" ++ decimal (d.offset + d.size - 1)) ++
    ": " ++ d.reason.message

end HttpTemplate.Text.Utf8
