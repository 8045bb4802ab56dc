import HttpTemplate.Text.Printable

/-!
Quoted text. The quote mark is the apostrophe, unless the text has apostrophes and no double
quotes. The mark and the backslash are escaped, line ends and tabs are named, and what is not
printable is written by its code point with two, four or eight hexadecimal digits.
-/

namespace HttpTemplate.Text

def apostrophe : Char := '\x27'

def doubleQuote : Char := '\x22'

def quoteMark (s : List Char) : Char :=
  if s.contains apostrophe && !s.contains doubleQuote then doubleQuote else apostrophe

def hex : Nat → Nat → List Char
  | 0, _ => []
  | width + 1, n => hex width (n / 16) ++ [Nat.digitChar (n % 16)]

def escapeCode (n : Nat) : List Char :=
  if n < 0x100 then '\\' :: 'x' :: hex 2 n
  else if n < 0x10000 then '\\' :: 'u' :: hex 4 n
  else '\\' :: 'U' :: hex 8 n

def escapeChar (mark c : Char) : List Char :=
  if c = mark ∨ c = '\\' then ['\\', c]
  else match c with
    | '\n' => ['\\', 'n']
    | '\r' => ['\\', 'r']
    | '\t' => ['\\', 't']
    | c => if isPrintable c then [c] else escapeCode c.toNat

def quotedChars (s : List Char) : List Char :=
  let mark := quoteMark s
  mark :: (s.flatMap (escapeChar mark) ++ [mark])

def quoted (s : String) : String := String.ofList (quotedChars s.toList)

def escapeByte (mark : Char) (b : UInt8) : List Char :=
  if b.toNat < 0x7f then escapeChar mark (Char.ofNat b.toNat) else escapeCode b.toNat

def quotedBytes (bytes : List UInt8) : String :=
  let mark := quoteMark (bytes.map fun b => Char.ofNat b.toNat)
  String.ofList ('b' :: mark :: (bytes.flatMap (escapeByte mark) ++ [mark]))

end HttpTemplate.Text
