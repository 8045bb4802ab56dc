import HttpTemplate.FileSystem
import HttpTemplate.Json.Read
import HttpTemplate.Json.Write
import HttpTemplate.Placeholder.Resolve
import HttpTemplate.Url

/-!
Everything that can go wrong, by cause. A template's own errors are found before anything is sent;
transport and application errors are results of the call. A `Foreign` error belongs to the program
around the library and is known by name only; its family is read off that name.
-/

namespace HttpTemplate

inductive Category where
  | timeout
  | security
  | connection
  | nameLookup
  | unknown
deriving DecidableEq, Repr

namespace Category

def code : Category → String
  | timeout => "TIMEOUT"
  | security => "SSL_ERROR"
  | connection => "CONNECTION_ERROR"
  | nameLookup => "DNS_ERROR"
  | unknown => "UNKNOWN_ERROR"

def ofName (name : String) : Category :=
  let name := Text.lower name
  if Text.mentions name "timeout" then timeout
  else if Text.mentions name "ssl" || Text.mentions name "certificate" then security
  else if Text.mentions name "gaierror" || Text.mentions name "dns" then nameLookup
  else if ["connect", "network", "protocol"].any (Text.mentions name) then connection
  else unknown

end Category

structure Foreign where
  name : String
  argument : Option String
deriving DecidableEq, Repr

namespace Foreign

def timeouts : List String :=
  ["TimeoutError", "TimeoutException", "ConnectTimeout", "ReadTimeout", "WriteTimeout",
    "PoolTimeout"]

def securityErrors : List String :=
  ["SSLError", "SSLCertVerificationError", "SSLZeroReturnError", "SSLWantReadError",
    "SSLWantWriteError", "SSLSyscallError", "SSLEOFError"]

def lookupErrors : List String := ["gaierror", "herror"]

def syntaxErrors : List String := ["SyntaxError", "IndentationError", "TabError"]

def connectionErrors : List String :=
  ["ConnectError", "NetworkError", "ReadError", "WriteError", "CloseError", "RemoteProtocolError",
    "ProxyError", "ConnectionError", "ConnectionRefusedError", "ConnectionResetError",
    "ConnectionAbortedError", "BrokenPipeError"]

def otherReported : List String :=
  ["HTTPError", "HTTPStatusError", "RequestError", "TransportError", "ProtocolError",
    "LocalProtocolError", "UnsupportedProtocol", "DecodingError", "TooManyRedirects", "OSError",
    "BlockingIOError", "ChildProcessError", "FileExistsError", "FileNotFoundError",
    "InterruptedError", "IsADirectoryError", "NotADirectoryError", "PermissionError",
    "ProcessLookupError", "ValueError", "UnicodeError", "UnicodeDecodeError",
    "UnicodeEncodeError", "UnicodeTranslateError", "JSONDecodeError"]

def category (e : Foreign) : Category :=
  if timeouts.contains e.name then .timeout
  else if securityErrors.contains e.name then .security
  else if lookupErrors.contains e.name then .nameLookup
  else if connectionErrors.contains e.name then .connection
  else .unknown

/-- Errors that end the whole program, which no outcome of a request holds. -/
def endsProgram (e : Foreign) : Bool :=
  ["BaseException", "KeyboardInterrupt", "SystemExit", "GeneratorExit"].contains e.name

def isReported (e : Foreign) : Bool :=
  e.category != .unknown || otherReported.contains e.name

/-- A missing key is shown quoted, security errors show all their arguments, and errors of syntax
show that they have none. -/
def message (e : Foreign) : String :=
  if securityErrors.contains e.name then
    (Value.tuple (e.argument.toList.map Value.str)).literal
  else match e.argument with
    | some text => if e.name = "KeyError" then Text.quoted text else text
    | none => if syntaxErrors.contains e.name then "None" else ""

end Foreign

inductive TemplateFault where
  | noUrl
  | notMapping (part : String)
  | attachmentType (typeName : String)
  | attachmentParts
  | bodyNotMapping
  | bodyNotFinite
  | bodyOversized
  | notObject (path : String)
  | other (message : String)
deriving DecidableEq, Repr

def notEncoded : String := "Value cannot be encoded as JSON: "

def TemplateFault.message : TemplateFault → String
  | noUrl => "A request template needs a url"
  | notMapping part => part ++ " must be a mapping"
  | attachmentType typeName => "Attachment entries must be mappings, got " ++ typeName
  | attachmentParts => "Attachment entries need both 'field' and 'filePath'"
  | bodyNotMapping => "A request with attachments needs a mapping body (or none)"
  | bodyNotFinite => notEncoded ++ Json.WriteFault.notFinite.message
  | bodyOversized => notEncoded ++ Misuse.oversized.message
  | notObject path => path ++ ": a request template must be a JSON object"
  | other message => message

inductive Fault where
  | general (message : String)
  | template (cause : TemplateFault)
  | placeholder (cause : VariableFault)
  | transport (message errorType : Value) (category : Category)
  | application (status : Value) (message : String) (body : Value)
  | url (cause : Url.Fault)
  | unwritable (cause : Json.WriteFault)
  | unreadable (cause : Json.ReadFault)
  | undecodable (cause : Text.Utf8.Defect)
  | file (cause : FileFault)
  | misuse (cause : Misuse)
  | tooManyValues (limit given : Nat)
  | unknownLevel (name : String)
  | notRunning
  | foreign (e : Foreign)
deriving Repr

namespace Fault

/-- What leaves `source` for a fault: errors that stand for the end of an iteration there are
replaced. -/
def leaving (source : String) (endings : List String) : Fault → Fault
  | foreign e =>
    if endings.contains e.name then
      foreign ⟨"RuntimeError", some (source ++ " raised " ++ e.name)⟩
    else foreign e
  | f => f

def leavingTask : Fault → Fault := leaving "coroutine" ["StopIteration"]

def leavingStream : Fault → Fault :=
  leaving "async generator" ["StopIteration", "StopAsyncIteration"]

def endsProgram : Fault → Bool
  | foreign e => e.endsProgram
  | _ => false

def message : Fault → String
  | general message => message
  | template cause => cause.message
  | placeholder cause => cause.message
  | transport message _ _ => message.text
  | application _ message _ => message
  | url cause => cause.message
  | unwritable cause => cause.message
  | unreadable cause => cause.message
  | undecodable cause => cause.message
  | file cause => cause.message
  | misuse cause => cause.message
  | tooManyValues limit given =>
    "operation takes at most " ++ Text.decimal limit ++ " arguments (" ++ Text.decimal given ++
      " given)"
  | unknownLevel name => "Unknown level: " ++ Text.quoted name
  | notRunning => "no running event loop"
  | foreign e => e.message

def category : Fault → Category
  | transport _ _ category => category
  | foreign e => e.category
  | _ => .unknown

def argument? : Fault → Option String
  | foreign e => e.argument
  | f => some f.message

def attributes : Fault → List (String × Value)
  | application status message body =>
    [("status_code", status), ("message", .str message), ("body", body)]
  | _ => []

def toValue (kind : String) (f : Fault) : Value :=
  let literal := kind ++ "(" ++ (f.argument?.map Text.quoted).getD "" ++ ")"
  .record ⟨kind, f.message, literal⟩ f.attributes

/-- Only what a transport has said may be no text, but a value that has none. -/
def isWritable : Fault → Bool
  | transport message _ _ => message.isWritable
  | _ => true

def ofWriteFault : Json.WriteFault → Fault
  | .notFinite => template .bodyNotFinite
  | .misuse .oversized => template .bodyOversized
  | cause => unwritable cause

end Fault

def toJson (v : Value) : Except Fault String := (Json.write .strict v).mapError Fault.ofWriteFault

end HttpTemplate
