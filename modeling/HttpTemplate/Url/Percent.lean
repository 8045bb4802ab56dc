import HttpTemplate.Text.Utf8

/-!
Percent coding. A character is kept when it is safe where it stands, else each byte of its UTF-8
form becomes a percent sign and two digits. `quote` leaves percent sequences that are already there
as they are.
-/

namespace HttpTemplate.Url

def isAlpha (c : Char) : Bool := ('a' ≤ c && c ≤ 'z') || ('A' ≤ c && c ≤ 'Z')

def isDigit (c : Char) : Bool := '0' ≤ c && c ≤ '9'

def isHexDigit (c : Char) : Bool := isDigit c || ('a' ≤ c && c ≤ 'f') || ('A' ≤ c && c ≤ 'F')

def isUnreserved (c : Char) : Bool :=
  isAlpha c || isDigit c || c == '-' || c == '.' || c == '_' || c == '~'

def isPrintableAscii (c : Char) : Bool := ' ' ≤ c && c ≤ '~'

def hexDigit (n : Nat) : Char := if n < 10 then Char.ofNat (0x30 + n) else Char.ofNat (0x37 + n)

def percentByte (b : UInt8) : List Char := ['%', hexDigit (b.toNat / 16), hexDigit (b.toNat % 16)]

def percentChar (c : Char) : List Char := (String.utf8EncodeChar c).flatMap percentByte

def quoteChar (safe : Char → Bool) (c : Char) : List Char :=
  if isUnreserved c || safe c then [c] else percentChar c

def quote (safe : Char → Bool) : List Char → List Char
  | [] => []
  | '%' :: a :: b :: s =>
    if isHexDigit a && isHexDigit b then '%' :: a :: b :: quote safe s
    else quoteChar safe '%' ++ quote safe (a :: b :: s)
  | c :: s => quoteChar safe c ++ quote safe s

def hexValue (c : Char) : Nat :=
  if isDigit c then c.toNat - 0x30 else if 'a' ≤ c then c.toNat - 0x57 else c.toNat - 0x37

def unquoteBytes : List Char → List UInt8
  | [] => []
  | '%' :: a :: b :: s =>
    if isHexDigit a && isHexDigit b then
      UInt8.ofNat (hexValue a * 16 + hexValue b) :: unquoteBytes s
    else String.utf8EncodeChar '%' ++ unquoteBytes (a :: b :: s)
  | c :: s => String.utf8EncodeChar c ++ unquoteBytes s

def unquote (s : List Char) : List Char :=
  (Text.Utf8.decodeLossy (unquoteBytes s)).toList

def safeExcept (unsafes : List Char) (c : Char) : Bool := isPrintableAscii c && !unsafes.contains c

def unsafeInFragment : List Char := [' ', '\x22', '<', '>', '\x60']

def unsafeInQuery : List Char := [' ', '\x22', '#', '<', '>']

def unsafeInPath : List Char := unsafeInQuery ++ ['?', '\x60', '\x7b', '\x7d']

def unsafeInUserinfo : List Char :=
  unsafeInPath ++ ['/', ';', '=', '@', '[', '\\', ']', '^', '|']

def safeInFragment : Char → Bool := safeExcept unsafeInFragment

def safeInQuery : Char → Bool := safeExcept unsafeInQuery

def safeInPath : Char → Bool := safeExcept unsafeInPath

def safeInUserinfo : Char → Bool := safeExcept unsafeInUserinfo

def safeInHost (c : Char) : Bool :=
  ['!', '$', '&', '\x27', '(', ')', '*', '+', ',', ';', '=', '\x22', '\x60', '\x7b', '\x7d', '%',
    '|', '\\'].contains c

end HttpTemplate.Url
