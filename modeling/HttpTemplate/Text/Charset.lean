import HttpTemplate.Text.Utf8

/-!
The character sets a response body may be declared in, the names they are known by, and decoding
that never fails.
-/

namespace HttpTemplate.Text

inductive Charset where
  | utf8
  | utf8Marked
  | ascii
  | latin1
deriving DecidableEq, Repr

namespace Charset

def isNameChar (c : Char) : Bool := c.isAlphanum || c == '.'

/-- Names are compared in lower case with one underscore for each run of other characters. -/
def foldName : Bool → List Char → List Char
  | _, [] => []
  | gap, c :: rest =>
    if isNameChar c then (if gap then ['_', c.toLower] else [c.toLower]) ++ foldName false rest
    else foldName true rest

def canonicalName (name : String) : String :=
  String.ofList (foldName false (name.toList.dropWhile (!isNameChar ·)))

def utf8Names : List String := ["u8", "utf", "utf8", "utf8_ucs2", "utf8_ucs4", "cp65001"]

def asciiNames : List String :=
  ["646", "ansi_x3.4_1968", "ansi_x3_4_1968", "ansi_x3.4_1986", "cp367", "csascii", "ibm367",
    "iso646_us", "iso_646.irv_1991", "iso_ir_6", "us", "us_ascii"]

def latin1Names : List String :=
  ["8859", "cp819", "csisolatin1", "ibm819", "iso8859", "iso8859_1", "iso_8859_1",
    "iso_8859_1_1987", "iso_ir_100", "l1", "latin", "latin1"]

def ofAlias? (name : String) : Option Charset :=
  if utf8Names.contains name then some utf8
  else if asciiNames.contains name then some ascii
  else if latin1Names.contains name then some latin1
  else none

def ofOwnName? (name : String) : Option Charset :=
  match name with
  | "utf_8" => some utf8
  | "utf_8_sig" => some utf8Marked
  | "ascii" => some ascii
  | "latin_1" => some latin1
  | _ => none

def withoutPoints (name : String) : String :=
  String.ofList (name.toList.map fun c => if c = '.' then '_' else c)

/-- In an alias a point may stand for an underscore, in a set's own name not. -/
def ofName? (name : String) : Option Charset :=
  let name := canonicalName name
  (ofAlias? name <|> ofAlias? (withoutPoints name)) <|> ofOwnName? name

def dropMark : List UInt8 → List UInt8
  | 0xef :: 0xbb :: 0xbf :: rest => rest
  | bytes => bytes

def decodeLossy : Charset → List UInt8 → String
  | utf8, bytes => Utf8.decodeLossy bytes
  | utf8Marked, bytes => Utf8.decodeLossy (dropMark bytes)
  | ascii, bytes =>
    String.ofList (bytes.map fun b => if b < 0x80 then Char.ofNat b.toNat else '\ufffd')
  | latin1, bytes => String.ofList (bytes.map fun b => Char.ofNat b.toNat)

end Charset

end HttpTemplate.Text
