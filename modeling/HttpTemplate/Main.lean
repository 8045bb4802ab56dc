import HttpTemplate.Client.Network
import HttpTemplate.CommandLine.Execution

/-!
The program: it hands words, environment and file to an execution and prints how it ends. It has no
network of its own, so every connection fails, and encodes no host names.
-/

namespace HttpTemplate.CommandLine

open scoped Idna

def settingNames : List String :=
  ["RESTTEMPLATE_HTTP_TIMEOUT", "RESTTEMPLATE_USER_AGENT", "RESTTEMPLATE_HTTP_REDIRECTS",
    "RESTTEMPLATE_HTTP_VERIFY_SSL", "RESTTEMPLATE_HTTP_MAX_BODY_BYTES"]

def readEnvironment : IO Environment :=
  settingNames.filterMapM fun name => do return (← IO.getEnv name).map (name, ·)

def readFile (path : String) : IO (Except FileFault (List UInt8)) := do
  try
    let bytes ← IO.FS.readBinFile path
    return .ok bytes.toList
  catch
    | .inappropriateType _ _ _ => return .error (.isDirectory path)
    | .permissionDenied _ _ _ => return .error (.denied path)
    | _ => return .error (.missing path)

def readTemplate (words : List String) : IO (Except FileFault (List UInt8)) :=
  match Options.read words with
  | .ok o => readFile (cleanPath o.template)
  | .error _ => return .error (.missing "")

def finish : Ending → IO UInt32
  | .exit status output errors => do
    IO.print output
    IO.eprint errors
    return UInt32.ofNat status
  | .help => do
    IO.println usage
    return 0
  | .usage e => do
    IO.eprintln usage
    IO.eprintln e.report
    return 2
  | .escaped f => do
    IO.eprintln f.message
    return 1

def run (words : List String) : IO UInt32 := do
  let environment ← readEnvironment
  let content ← readTemplate words
  let execution := Execution.ofWords
    { environment, read := fun _ => content, answer := Network.absent } words
  finish execution.ending

end HttpTemplate.CommandLine

def main (words : List String) : IO UInt32 := HttpTemplate.CommandLine.run words
