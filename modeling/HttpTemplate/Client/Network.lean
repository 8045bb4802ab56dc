import HttpTemplate.FileSystem
import HttpTemplate.Log
import HttpTemplate.Request
import HttpTemplate.Response

/-!
The client of the network. It opens the attached files, sends the request, reads the body chunk by
chunk up to the limit, and closes what it has opened, whatever happens. The network itself is a
`Peer` that plays its part, and files and codecs are those of a `Machine`.
-/

namespace HttpTemplate

/-- What the network does with a request: it may refuse it, else it sends the chunks and may break
off after them. -/
structure Peer where
  refusal : Option Fault := none
  status : Value := .int 200
  headers : Value := .map []
  chunks : List (List UInt8) := []
  failure : Option Fault := none
  charset : Option String := none
  url : String
deriving Repr

/-- Files by their paths, and codecs by the names of charsets. A codec may refuse to decode. -/
structure Machine where
  read : String → Except FileFault (List UInt8)
  codec? : String → Option (List UInt8 → Except Foreign String) := fun _ => none

def FileSystem.machine (fs : FileSystem) : Machine := { read := fs.read }

structure Upload where
  field : String
  name : String
  content : List UInt8
deriving DecidableEq, Repr

inductive Cargo where
  | content (body : Value)
  | form (fields : Value) (files : List Upload)
deriving Repr

structure Sent where
  method : Value
  url : Value
  headers : Table
  timeout : Value
  followRedirects : Value
  cargo : Cargo
deriving Repr

inductive FileEvent where
  | opened (path : String)
  | closed (path : String)
deriving DecidableEq, Repr

structure Exchange where
  sent : Option Sent := none
  chunksRead : Nat := 0
  files : List FileEvent := []
  log : List Log.Line := []
  result : Except Fault Response

namespace Network

def limit (s : Settings) : Int := Settings.effectiveSize s.maxBodyBytes

/-- The headers with the user agent of the settings, if they have none under that very name. -/
def withAgent (s : Settings) (headers : Table) : Table :=
  match headers.get? (.str "User-Agent") with
  | some _ => headers
  | none => headers.put (.str "User-Agent") (.str s.userAgent)

def headers (s : Settings) (r : Outgoing) : Except Misuse Table :=
  if r.headers.truthy then r.headers.toTable.map (withAgent s) else .ok (withAgent s [])

def openFiles (m : Machine) : List Attachment → List String × Except FileFault (List Upload)
  | [] => ([], .ok [])
  | a :: rest =>
    match m.read a.path with
    | .error f => ([], .error f)
    | .ok content =>
      let (paths, uploads) := openFiles m rest
      (a.path :: paths, uploads.map (⟨a.field, baseName a.path, content⟩ :: ·))

/-- How many chunks are pulled, and their bytes unless the limit is passed. -/
def readChunks (limit : Int) (size : Nat) : List (List UInt8) → Nat × Option (List UInt8)
  | [] => (0, some [])
  | chunk :: rest =>
    if limit < (size + chunk.length : Nat) then (1, none)
    else
      let (count, body) := readChunks limit (size + chunk.length) rest
      (count + 1, body.map (chunk ++ ·))

/-- The text of a body. Charsets that are not built in are decoded by the codecs of the machine, an
empty body needs none, and without a known charset a body is UTF-8. -/
def decode (m : Machine) (name : Option String) (bytes : List UInt8) : Except Fault String :=
  let name := name.getD ""
  if name.toList.contains '\x00' then .error (.misuse .nullCharacter)
  else if name = "" ∨ bytes = [] then .ok (Text.Utf8.decodeLossy bytes)
  else match Text.Charset.ofName? name, m.codec? name with
    | some charset, _ => .ok (charset.decodeLossy bytes)
    | none, some codec => (codec bytes).mapError .foreign
    | none, none => .ok (Text.Utf8.decodeLossy bytes)

def tooLarge (limit : Int) : Fault :=
  .transport (.str ("Response body exceeds " ++ Text.decimalInt limit ++ " bytes"))
    (.str "ResponseTooLarge") .unknown

def tooLargeLine (url : Value) (limit : Int) : Log.Line :=
  ⟨.warning, .network,
    "Response body from " ++ url.text ++ " exceeds " ++ Text.decimalInt limit ++ " bytes"⟩

def response (m : Machine) (peer : Peer) (limit : Int) (body : List UInt8) :
    Except Fault Response := do
  let text ← decode m peer.charset body
  let headers ← (Header.normalize peer.headers).mapError Fault.misuse
  return {
    ok := .bool true
    status := peer.status
    headers := headers.toValue
    text := .str text
    content := .bytes body
    url := .str peer.url
    extra := .map
      [(.str "body_bytes_read", .int body.length), (.str "body_bytes_limit", .int limit)] }

def receive (m : Machine) (peer : Peer) (limit : Int) (url : Value) :
    Nat × List Log.Line × Except Fault Response :=
  match peer.refusal with
  | some f => (0, [], .error f.leavingTask)
  | none =>
    match readChunks limit 0 peer.chunks with
    | (count, none) => (count, [tooLargeLine url limit], .error (tooLarge limit))
    | (count, some body) =>
      match peer.failure with
      | some f => (count, [], .error f.leavingStream)
      | none => (count, [], response m peer limit body)

def send (s : Settings) (r : Outgoing) (headers : Table) (cargo : Cargo) : Sent where
  method := r.method
  url := r.url
  headers := headers
  timeout := if r.timeout.isNull then s.timeout else r.timeout
  followRedirects := r.allowRedirects
  cargo := cargo

def exchangeWith (s : Settings) (m : Machine) (peer : Peer) (r : Outgoing) (headers : Table)
    (cargo : Cargo) : Exchange :=
  let (count, log, result) := receive m peer (limit s) r.url
  { sent := some (send s r headers cargo), chunksRead := count, log, result }

def formFields (r : Outgoing) : Value := if r.form.truthy then r.form else .map []

def exchange (s : Settings) (m : Machine) (peer : Peer) (r : Outgoing) (headers : Table) :
    Exchange :=
  if r.isMultipart then
    let (paths, uploads) := openFiles m r.files
    let files := paths.map .opened ++ paths.reverse.map .closed
    match uploads with
    | .error f => { files, result := .error (.file f) }
    | .ok uploads =>
      { exchangeWith s m peer r headers (.form (formFields r) uploads) with files }
  else exchangeWith s m peer r headers (.content r.body)

def request (s : Settings) (m : Machine) (peer : Peer) (r : Outgoing) : Exchange :=
  match headers s r with
  | .error cause => { result := .error (.misuse cause) }
  | .ok headers => exchange s m peer r headers

def absent (_ : Outgoing) : Except Fault Response :=
  .error (.foreign ⟨"ConnectError", some "All connection attempts failed"⟩)

end Network

end HttpTemplate
