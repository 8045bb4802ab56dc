import HttpTemplate.Fault
import HttpTemplate.Header
import HttpTemplate.Query
import HttpTemplate.Settings

/-!
Requests, and their assembly from the resolved parts of a template. A request carries a body of
bytes or, when files are attached, a form with the files; a transport adds the form's own content
type. JSON is accepted and sent unless the headers say otherwise.
-/

namespace HttpTemplate

structure Request where
  url : String
  method : String := "GET"
  headers : Option Headers := none
  body : Option (List UInt8) := none
  form : Option Headers := none
  files : List Attachment := []
  timeout : Value := .null
  allowRedirects : Bool := true
deriving Repr

/-- A request in the hands of a client. Clients take requests of any origin, so that the members may
be values of any type; only the files are known to be files. -/
structure Outgoing where
  url : Value
  method : Value := .str "GET"
  headers : Value := .null
  body : Value := .null
  form : Value := .null
  files : List Attachment := []
  timeout : Value := .null
  allowRedirects : Value := .bool true
deriving Repr

def Outgoing.isMultipart (r : Outgoing) : Bool := !r.files.isEmpty

namespace Request

def isMultipart (r : Request) : Bool := !r.files.isEmpty

def jsonType : String := "application/json"

def outgoing (r : Request) : Outgoing where
  url := .str r.url
  method := .str r.method
  headers := (r.headers.map Headers.toValue).getD .null
  body := (r.body.map Value.bytes).getD .null
  form := (r.form.map Headers.toValue).getD .null
  files := r.files
  timeout := r.timeout
  allowRedirects := .bool r.allowRedirects

end Request

structure Parts where
  method : Option String := none
  url : String
  headers : Table := []
  query : Table := []
  body : Value := .null
  attachments : List Attachment := []

namespace Parts

variable [Idna]

def presentEntries (t : Table) : Table := t.filter (!·.2.isNull)

def requestHeaders (headers : Table) : Headers :=
  Entries.ofPairs ((presentEntries headers).map fun (k, v) => (k.text, v.render))

def flatQuery (query : Table) : Except Fault (List (String × String)) :=
  (Query.flatten query).mapError Fault.ofWriteFault

def requestUrl (url : String) (query : Table) : Except Fault String := do
  let pairs ← flatQuery query
  if pairs.isEmpty then return url
  else (Url.mergeQuery url pairs).mapError Fault.url

def fields : List (Value × Value) → Except Fault (List (String × String))
  | [] => .ok []
  | (k, v) :: rest => do
    let text ← (Query.fieldText v).mapError Fault.ofWriteFault
    let others ← fields rest
    return (k.text, text) :: others

def form (body : Value) : Except Fault Headers :=
  match body with
  | .null => .ok []
  | .map es => (fields (presentEntries es)).map Entries.ofPairs
  | _ => .error (.template .bodyNotMapping)

def methodText (method : Option String) : String :=
  let name := method.getD ""
  Text.upper (if name = "" then "GET" else name)

def assemble (p : Parts) (settings : Settings) : Except Fault Request := do
  let headers := (requestHeaders p.headers).withDefault "Accept" Request.jsonType
  let url ← requestUrl p.url p.query
  let request : Request := {
    url, method := methodText p.method
    timeout := settings.timeout, allowRedirects := settings.allowRedirects }
  if !p.attachments.isEmpty then
    let form ← form p.body
    return { request with
      headers := some (headers.without "content-type")
      form := some form
      files := p.attachments }
  else if p.body.isNull then return { request with headers := some headers }
  else
    let text ← toJson p.body
    return { request with
      headers := some (headers.withDefault "Content-Type" Request.jsonType)
      body := some (Text.Utf8.encode text) }

end Parts

end HttpTemplate
