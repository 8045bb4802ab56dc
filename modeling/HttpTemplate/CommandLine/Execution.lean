import HttpTemplate.CommandLine.Assignments
import HttpTemplate.Descriptor
import HttpTemplate.Log.Setup
import HttpTemplate.Template

/-!
One execution of the command line: it reads the words, sets up logging, loads the template, calls it
once and prints the result. The exit status is 0 for a value, 2 for an error of the template and 1
for the other errors that are reported; what is not reported escapes.
-/

namespace HttpTemplate.CommandLine

inductive Ending where
  | exit (status : Nat) (output errors : String)
  | help
  | usage (e : UsageError)
  | escaped (f : Fault)
deriving Repr

namespace Ending

def errorLine (f : Fault) : String := "error: " ++ f.message ++ "\n"

def document (v : Value) : Except Fault String := do
  let text ← (Json.write .pretty (Json.sortKeys v)).mapError Fault.unwritable
  return text ++ "\n"

def printing (status : Nat) (v : Value) : Ending :=
  match document v with
  | .ok text => .exit status text ""
  | .error f => .escaped f

def errorValue (status : Value) (message : String) (body : Value) : Value :=
  .map [(.str "status_code", status), (.str "message", .str message), (.str "body", body)]

def isTemplateFault : Fault → Bool
  | .template _ => true
  | .placeholder (.missing _) => true
  | .placeholder (.uncoercible _ _ _) => true
  | _ => false

def isReported : Fault → Bool
  | .general _ => true
  | .placeholder (.oversized _) => true
  | .placeholder (.misuse cause) => cause.isOfValue
  | .unwritable (.misuse cause) => cause.isOfValue
  | .misuse cause => cause.isOfValue
  | .transport _ _ _ => true
  | .unreadable _ => true
  | .undecodable _ => true
  | .file _ => true
  | .foreign e => e.isReported
  | _ => false

/-- The line about a fault is written after the fault has been caught. -/
def reporting (status : Nat) (f : Fault) : Ending :=
  if f.isWritable then .exit status "" (errorLine f) else .escaped (.misuse .oversized)

def ofFault (f : Fault) : Ending :=
  match f with
  | .application status message body => printing 1 (errorValue status message body)
  | f =>
    if isTemplateFault f then reporting 2 f
    else if isReported f then reporting 1 f
    else .escaped f

/-- An object that has `to_dict` is asked for its data, and what it has there is no method. -/
def ofAnswer : Answer → Ending
  | .plain v =>
    match v.attribute? "to_dict" with
    | some w => .escaped (.misuse (.notCallable w.typeName))
    | none => printing 0 v
  | .full r => printing 0 r.toValue

def ofResult : Except Fault Answer → Ending
  | .ok answer => ofAnswer answer
  | .error f => ofFault f

end Ending

structure Execution where
  ending : Ending
  log : Log.State
  settings : Option Settings := none
  requests : List Outgoing := []
  closed : Nat := 0
deriving Repr

structure Surroundings where
  environment : Environment := []
  read : String → Except FileFault (List UInt8)
  log : Log.State := {}
  answer : Outgoing → Except Fault Response

namespace Execution

variable [Idna]

def settingsFor (o : Options) (env : Environment) : Settings :=
  let s := Settings.ofEnvironment env
  if o.ignoreCertificates then { s with verifyCertificates := false } else s

def withFlag (o : Options) (descriptor : Table) : Table :=
  if o.fullResponse then descriptor.put (.str "fullResponse") (.bool true) else descriptor

/-- The client is made once the descriptor has a URL, and closed once the template has been
called. -/
def ofDescriptor (s : Settings) (surroundings : Surroundings) (arguments : Arguments)
    (log : Log.State) (descriptor : Table) : Execution :=
  match Template.start s descriptor with
  | .error f => { ending := .ofFault f, log }
  | .ok t =>
    match t.fill descriptor with
    | .error f => { ending := .ofFault f, log, settings := some s }
    | .ok t =>
      match t.invoke surroundings.answer arguments with
      | .error f => { ending := .ofFault f, log, settings := some s, closed := 1 }
      | .ok run =>
        { ending := .ofResult run.awaited, log, settings := some s, requests := [run.request]
          closed := 1 }

def ofArguments (o : Options) (surroundings : Surroundings) (log : Log.State)
    (arguments : Arguments) : Execution :=
  match Descriptor.load surroundings.read o.template with
  | .error f => { ending := .ofFault f, log }
  | .ok descriptor =>
    ofDescriptor (settingsFor o surroundings.environment) surroundings arguments log
      (withFlag o descriptor)

def ofOptions (surroundings : Surroundings) (o : Options) : Execution :=
  match surroundings.log.setup o.logLevel.name? with
  | (log, some f) => { ending := .escaped f, log }
  | (log, none) =>
    match assignments o.assignments with
    | .error e => { ending := .usage e, log }
    | .ok values => ofArguments o surroundings log (argumentsOf values)

def ofWords (surroundings : Surroundings) (words : List String) : Execution :=
  match Options.read words with
  | .ok o => ofOptions surroundings o
  | .error .help => { ending := .help, log := surroundings.log }
  | .error (.usage e) => { ending := .usage e, log := surroundings.log }

end Execution

end HttpTemplate.CommandLine
