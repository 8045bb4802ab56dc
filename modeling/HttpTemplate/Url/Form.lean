import HttpTemplate.Entries
import HttpTemplate.Text.Split
import HttpTemplate.Url.Percent

/-!
Form coding of name and value pairs: pairs are joined by ampersands, names and values by equals
signs, a space is a plus sign and everything else outside the unreserved characters is
percent-coded.
-/

namespace HttpTemplate.Url.Form

abbrev Pairs := List (String × String)

def encodeChar (c : Char) : List Char := if c = ' ' then ['+'] else quoteChar (fun _ => false) c

def encode (s : String) : List Char := s.toList.flatMap encodeChar

def writePair (p : String × String) : List Char := encode p.1 ++ '=' :: encode p.2

def write (pairs : Pairs) : List Char := ['&'].intercalate (pairs.map writePair)

def plusToSpace (s : List Char) : List Char := s.map fun c => if c = '+' then ' ' else c

def decode (s : List Char) : String := String.ofList (unquote (plusToSpace s))

def readPair (piece : List Char) : String × String :=
  let (name, value) := Text.splitFirst '=' piece
  (decode name, decode (value.getD []))

def read (s : List Char) : Pairs :=
  ((Text.splitOn '&' s).filter (!·.isEmpty)).map readPair

/-- The pairs of `old` with those of `new` put in: a name that is new goes to the end, one that is
present keeps its place and has only its new values. -/
def merge (old new : Pairs) : Pairs :=
  Entries.ungroup (Entries.putAll (Entries.group old) (Entries.group new))

end HttpTemplate.Url.Form
