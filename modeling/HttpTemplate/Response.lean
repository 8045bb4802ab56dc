import HttpTemplate.Fault
import HttpTemplate.Header
import HttpTemplate.Text.Charset

/-!
Responses as transports give them, and reading one from a mapping with whatever members it has. A
transport may put values of any type into a response; one that is read from a mapping has text,
content, headers and extra members of the proper types.
-/

namespace HttpTemplate

structure Response where
  ok : Value
  status : Value := .null
  headers : Value := .map []
  text : Value := .str ""
  content : Value := .bytes []
  url : Value := .null
  errorMessage : Value := .null
  errorType : Value := .null
  extra : Value := .map []
deriving Repr

structure FullResponse where
  status : Value
  headers : Table
  body : Value
deriving Repr

namespace FullResponse

def toValue (r : FullResponse) : Value :=
  .map [(.str "status_code", r.status), (.str "headers", .map r.headers), (.str "body", r.body)]

end FullResponse

namespace Response

def bodyParts : Value → String × List UInt8
  | .bytes bs => (Text.Utf8.decodeLossy bs, bs)
  | .str s => (s, Text.Utf8.encode s)
  | _ => ("", [])

def mappingHeaders (headers : Value) : Headers :=
  let table := if headers.truthy then headers.table?.getD [] else []
  Entries.ofPairs ((table.filter (!·.1.isNull)).map fun (k, v) =>
    (Header.foldName k, Header.fieldText v))

def memberNames : List String :=
  ["ok", "status_code", "statusCode", "headers", "body", "url", "error_message", "error_type"]

def isMember (key : Value) : Bool := memberNames.any fun name => key == .str name

def member (data : Table) (name : String) : Value := (data.get? (.str name)).getD .null

def ofMapping (data : Table) : Response :=
  let status := (data.get? (.str "status_code")).getD (member data "statusCode")
  let ok := member data "ok"
  let (text, content) := bodyParts (member data "body")
  { ok := .bool (if ok.isNull then !status.isNull else ok.truthy)
    status
    headers := (mappingHeaders (member data "headers")).toValue
    text := .str text
    content := .bytes content
    url := member data "url"
    errorMessage := member data "error_message"
    errorType := member data "error_type"
    extra := .map (data.filter fun (k, _) => !isMember k) }

def ofValue : Value → Except Misuse Response
  | .map data => .ok (ofMapping data)
  | v => .error (v.noMethod "get")

def memberLiterals (r : Response) : List (String × Value) :=
  [("ok", r.ok), ("status_code", r.status), ("headers", r.headers), ("text", r.text),
    ("content", r.content), ("url", r.url), ("error_message", r.errorMessage),
    ("error_type", r.errorType), ("meta", r.extra)]

def literal (r : Response) : String :=
  "HttpResponse(" ++
    ", ".intercalate (r.memberLiterals.map fun (name, v) => name ++ "=" ++ v.literal) ++ ")"

end Response

end HttpTemplate
