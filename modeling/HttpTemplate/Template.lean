import HttpTemplate.Invocation
import HttpTemplate.Node

/-!
Request templates. A template is made from a method and a URL or from a descriptor, and its parts
are set one by one; every text in it is read when it is set. Building a request resolves URL,
headers, query and body in this order and assembles the result.
-/

namespace HttpTemplate

structure Template where
  method : String
  url : Leaf
  headers : List (Value × Node) := []
  query : List (Value × Node) := []
  body : Node := .scalar .null
  attachments : List Attachment := []
  fullResponse : Bool := false
  settings : Settings
deriving Repr

namespace Template

variable [Idna]

def setHeaders (t : Template) : Value → Except Fault Template
  | .map es => .ok { t with headers := Node.compileEntries es }
  | _ => .error (.template (.notMapping "headers"))

def setQuery (t : Template) : Value → Except Fault Template
  | .map es => .ok { t with query := Node.compileEntries es }
  | _ => .error (.template (.notMapping "query"))

def setBody (t : Template) (body : Value) : Template := { t with body := Node.compile body }

def attach (t : Template) (a : Attachment) : Template :=
  { t with attachments := t.attachments ++ [a] }

def firstOf (t : Table) (names : List String) : Value :=
  (names.findSome? fun name => t.get? (.str name)).getD .null

def attachmentOf : Value → Except Fault Attachment
  | .attachment a => .ok a
  | .map es =>
    let field := firstOf es ["field"]
    let path := firstOf es ["filePath", "file_path", "path"]
    if field.truthy && path.truthy then .ok ⟨field.text, path.text⟩
    else .error (.template .attachmentParts)
  | v => .error (.template (.attachmentType v.typeName))

def attachmentsOf (entries : Value) : Except Fault (List Attachment) :=
  if !entries.truthy then .ok []
  else do
    let vs ← entries.elements.mapError Fault.misuse
    vs.mapM attachmentOf

def methodOf (v : Value) : String := Text.upper (if v.truthy then v.text else "GET")

def setPart (t : Template) (part : Value) (set : Template → Value → Except Fault Template) :
    Except Fault Template :=
  if part.isNull then .ok t else set t part

def start (settings : Settings) (descriptor : Table) : Except Fault Template :=
  match firstOf descriptor ["url"] with
  | .str url =>
    if url = "" then .error (.template .noUrl)
    else .ok {
      method := methodOf (firstOf descriptor ["method"])
      url := .ofText url
      fullResponse := (firstOf descriptor ["fullResponse", "full_response"]).truthy
      settings }
  | _ => .error (.template .noUrl)

def fill (t : Template) (descriptor : Table) : Except Fault Template := do
  let t ← t.setPart (firstOf descriptor ["headers"]) setHeaders
  let t ← t.setPart (firstOf descriptor ["query"]) setQuery
  let t ← t.setPart (firstOf descriptor ["body"]) fun t v => .ok (t.setBody v)
  let attachments ← attachmentsOf (firstOf descriptor ["formData", "attachments"])
  return { t with attachments }

def ofDescriptor (settings : Settings) (descriptor : Table) : Except Fault Template := do
  let t ← start settings descriptor
  t.fill descriptor

def make (settings : Settings) (method url : Value) : Except Fault Template :=
  match method with
  | .map descriptor => ofDescriptor settings descriptor
  | method => ofDescriptor settings [(.str "method", method), (.str "url", url)]

/-- All variables in the order URL, headers, query, body, repeated ones included. -/
def occurrences (t : Template) : List Variable :=
  t.url.occurrences ++ Node.occurrencesInEntries t.headers ++ Node.occurrencesInEntries t.query ++
    t.body.occurrences

def firstPerName (seen : List String) : List Variable → List Variable
  | [] => []
  | v :: vs =>
    if seen.contains v.name then firstPerName seen vs else v :: firstPerName (v.name :: seen) vs

def parameters (t : Template) : List Variable := firstPerName [] t.occurrences

def resolve (t : Template) (arguments : Arguments) : Except VariableFault Parts := do
  let url ← t.url.substitute arguments
  let headers ← Node.substituteEntries arguments t.headers
  let query ← Node.substituteEntries arguments t.query
  let body ← t.body.substitute arguments
  return {
    method := some t.method, url := url.render
    headers, query, body, attachments := t.attachments }

def given (arguments : Arguments) : Arguments := if arguments.isNull then .map [] else arguments

def build (t : Template) (arguments : Arguments) : Except Fault Request := do
  let parts ← (t.resolve (given arguments)).mapError Fault.placeholder
  parts.assemble t.settings

def invoke (t : Template) (answer : Outgoing → Except Fault Response) (arguments : Arguments) :
    Except Fault Run := do
  let request ← t.build arguments
  return .execute answer t.fullResponse request.outgoing

def description (t : Template) : String :=
  "RequestTemplate(" ++ t.method ++ " " ++ t.url.source ++ ")"

end Template

end HttpTemplate
