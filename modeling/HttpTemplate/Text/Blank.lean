/-!
Blank characters and the text between them. The blanks are the characters with the White_Space
property and the four information separators U+001C to U+001F.
-/

namespace HttpTemplate.Text

def isSeparatorMark (c : Char) : Bool :=
  let n := c.toNat
  0x1c ≤ n && n ≤ 0x1f

def isSpace (c : Char) : Bool :=
  let n := c.toNat
  (0x09 ≤ n && n ≤ 0x0d) || n == 0x20 || n == 0x85 || n == 0xa0 || n == 0x1680 ||
    (0x2000 ≤ n && n ≤ 0x200a) || n == 0x2028 || n == 0x2029 || n == 0x202f || n == 0x205f ||
    n == 0x3000

def isBlank (c : Char) : Bool := isSpace c || isSeparatorMark c

def trim (p : Char → Bool) (s : List Char) : List Char :=
  ((s.dropWhile p).reverse.dropWhile p).reverse

def strip (s : String) : String := String.ofList (trim isBlank s.toList)

end HttpTemplate.Text
