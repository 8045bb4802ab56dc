import HttpTemplate.Text.Blank
import HttpTemplate.Text.Case
import HttpTemplate.Value.Access

/-!
Header fields. Names are compared in lower case. A set of headers may come as a mapping, as an
object that yields pairs or as a list of pairs; anything else counts as no headers.
-/

namespace HttpTemplate

abbrev Headers := Entries String String

namespace Header

/-- An object that yields pairs is taken at its word: a key that cannot be one is an error. -/
def entries (headers : Value) : Except Misuse Table :=
  if !headers.truthy then .ok []
  else match headers with
    | .pairing pairs => Value.tableOf pairs
    | v => .ok (v.table?.getD [])

def fieldText (v : Value) : String := if v.isNull then "" else v.text

def foldName (name : Value) : String := Text.lower name.text

def normalizeTable (t : Table) : Headers :=
  Entries.ofPairs ((t.filter (!·.1.isNull)).filterMap fun (k, v) =>
    let name := Text.lower (Text.strip k.text)
    if name = "" then none else some (name, fieldText v))

def normalize (headers : Value) : Except Misuse Headers := (entries headers).map normalizeTable

def valueIn (t : Table) (name : Value) (default : String) : String :=
  match t.find? fun (k, _) => !k.isNull && foldName k == foldName name with
  | some (_, v) => if v.isNull then default else Text.strip v.text
  | none => default

def value (headers name : Value) (default : String) : Except Misuse String :=
  if !headers.truthy || !name.truthy then .ok default
  else (entries headers).map (valueIn · name default)

/-- The name that header names are compared with. Bytes equal no name. -/
def wanted? : Value → Except Misuse (Option String)
  | .str s => .ok (some (Text.lower s))
  | .bytes _ => .ok none
  | v => .error (v.noMethod "lower")

def has (headers name : Value) : Except Misuse Bool := do
  let name ← wanted? name
  let members ← if headers.truthy then headers.elements else .ok []
  return members.any fun k => some (foldName k) == name

def without (headers name : Value) : Except Misuse Table := do
  let name ← wanted? name
  let members ← headers.members
  Value.tableOf (members.filter fun (k, _) => some (foldName k) != name)

def isJson (headers : Value) : Except Misuse Bool :=
  (value headers (.str "content-type") "").map fun type => Text.mentions (Text.lower type) "json"

end Header

namespace Headers

def toTable (h : Headers) : Table := h.map fun (k, v) => (.str k, .str v)

def toValue (h : Headers) : Value := .map h.toTable

def has (h : Headers) (name : String) : Bool := h.any fun (k, _) => Text.lower k == Text.lower name

def without (h : Headers) (name : String) : Headers :=
  h.filter fun (k, _) => Text.lower k != Text.lower name

def withDefault (h : Headers) (name value : String) : Headers :=
  if h.has name then h else h.put name value

end Headers

end HttpTemplate
