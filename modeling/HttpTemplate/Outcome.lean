import HttpTemplate.Log
import HttpTemplate.Request
import HttpTemplate.Response
import HttpTemplate.Status

/-!
What a response means. Without a status the transport has failed, from 300 on the application has,
and below that the decoded body or the full response is the value.
-/

namespace HttpTemplate

inductive Answer where
  | plain (v : Value)
  | full (r : FullResponse)
deriving Repr

structure Outcome where
  error : Option Fault := none
  value : Answer := .plain .null
  response : Option Response := none
deriving Repr

namespace Response

def unparsedLine (r : Response) : Log.Line :=
  ⟨.debug, .invoker, "Response from " ++ r.url.text ++ " claims JSON but does not parse"⟩

def document? : Value → Except Misuse (Option Value)
  | .str s => .ok (Json.read s).toOption
  | .bytes bs =>
    .ok ((Text.Utf8.decode (Text.Charset.dropMark bs)).toOption >>= fun s => (Json.read s).toOption)
  | v => .error (.notDocument v.typeName)

def decodeBody (r : Response) : Except Misuse (Value × List Log.Line) :=
  if !r.text.truthy then .ok (r.text, [])
  else do
    let json ← Header.isJson r.headers
    if !json then return (r.text, [])
    else match ← document? r.text with
      | some v => return (v, [])
      | none => return (r.text, [r.unparsedLine])

end Response

namespace Value

def wording? : Value → Option String
  | str s => if s = "" then none else some s
  | _ => none

def field? (v : Value) (name : String) : Option Value :=
  match v with
  | map es => Entries.get? (str name) es
  | _ => none

def isEmptyBody : Value → Bool
  | null => true
  | str s => s == ""
  | map es => es.isEmpty
  | list vs => vs.isEmpty
  | _ => false

def errorWording? (body : Value) : Option String :=
  (body.field? "error" >>= (·.field? "message") >>= wording?) <|>
    (body.field? "message" >>= wording?) <|> (body.field? "error" >>= wording?)

def trimmedText? : Value → Option String
  | str s => if Text.strip s = "" then none else some (Text.strip s)
  | _ => none

end Value

def statusMessage (status : Value) : Except Misuse String :=
  match Status.reason? status with
  | some phrase => .ok phrase
  | none => status.written.map ("HTTP " ++ ·)

def failureMessage (status body : Value) : Except Fault String :=
  match body.errorWording? <|> body.trimmedText? with
  | some text => .ok text
  | none =>
    if body.isEmptyBody then (statusMessage status).mapError Fault.misuse
    else (Json.write .lenient body).mapError Fault.unwritable

namespace Category

def ofErrorType (errorType : Value) : Except Misuse Category :=
  if !errorType.truthy then .ok .unknown
  else match errorType with
    | .str s => .ok (ofName s)
    | .bytes _ => .error .bytesExpected
    | v => .error (v.noMethod "lower")

end Category

namespace Response

def transportError (r : Response) : Except Misuse Fault := do
  let category ← Category.ofErrorType r.errorType
  let message :=
    if r.errorMessage.truthy then r.errorMessage else .str "Transport returned no response"
  return .transport message r.errorType category

def isFailure (status : Value) : Except Fault Bool :=
  match status.numeric? with
  | some (.whole n) => .ok (300 ≤ n)
  | some (.real x) => .ok (x.atLeast 300)
  | none => .error (.misuse (.incomparable ">=" status.typeName "int"))

def answered (r : Response) (fullResponse : Bool) (body : Value) : Except Fault Outcome := do
  if ← isFailure r.status then
    let message ← failureMessage r.status body
    return ⟨some (.application r.status message body), .plain body, some r⟩
  else if fullResponse then
    let headers ← r.headers.toTable.mapError Fault.misuse
    return ⟨none, .full ⟨r.status, headers, body⟩, some r⟩
  else return ⟨none, .plain body, some r⟩

def classify (r : Response) (fullResponse : Bool) : Except Fault Outcome × List Log.Line :=
  if r.status.isNull then
    match r.transportError with
    | .ok error => (.ok ⟨some error, .plain .null, some r⟩, [])
    | .error cause => (.error (.misuse cause), [])
  else match r.decodeBody with
    | .ok (body, lines) => (r.answered fullResponse body, lines)
    | .error cause => (.error (.misuse cause), [])

end Response

end HttpTemplate
