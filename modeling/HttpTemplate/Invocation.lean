import HttpTemplate.Client
import HttpTemplate.Outcome

/-!
Running a request through a client. What the client raises is an outcome as well as what it
answers, unless it ends the whole program. The outcome goes to one place: to a callback, or to
whoever waits for it.
-/

namespace HttpTemplate

/-- A run of a request: the lines before and after the client answers, and the outcome, or the
fault that the client or its response breaks the run with. -/
structure Run where
  request : Outgoing
  before : List Log.Line
  after : List Log.Line
  result : Except Fault Outcome

namespace Run

def log (r : Run) : List Log.Line := r.before ++ r.after

def debug (message : String) : Log.Line := ⟨.debug, .invoker, message⟩

def target (r : Outgoing) : String := r.method.text ++ " " ++ r.url.text

def dispatchLine (r : Outgoing) : Log.Line := debug ("Dispatching " ++ target r)

def failureLine (r : Outgoing) (f : Fault) : Log.Line :=
  debug ("Transport failed for " ++ target r ++ " (" ++ f.category.code ++ "): " ++ f.message)

def answerLine (r : Outgoing) (status : Value) : Log.Line :=
  debug (target r ++ " -> " ++ status.text)

def outcomeLine (r : Outgoing) (status : Value) (o : Outcome) : Log.Line :=
  match o.error with
  | some f@(.transport _ _ _) => failureLine r f
  | _ => answerLine r status

def execute (answer : Outgoing → Except Fault Response) (fullResponse : Bool) (r : Outgoing) :
    Run :=
  match answer r with
  | .error f =>
    if f.endsProgram then ⟨r, [dispatchLine r], [], .error f⟩
    else ⟨r, [dispatchLine r], [failureLine r f], .ok { error := some f }⟩
  | .ok response =>
    match response.classify fullResponse with
    | (.ok o, lines) => ⟨r, [dispatchLine r], lines ++ [outcomeLine r response.status o], .ok o⟩
    | (.error f, lines) => ⟨r, [dispatchLine r], lines, .error f⟩

def awaited (run : Run) : Except Fault Answer :=
  match run.result with
  | .error f => .error f
  | .ok o =>
    match o.error with
    | some f => .error f
    | none => .ok o.value

def callbacks (run : Run) : List Outcome :=
  match run.result with
  | .ok o => [o]
  | .error _ => []

/-- The faults that reach neither a callback nor anyone who waits. -/
def escaped (run : Run) : List Fault :=
  match run.result with
  | .ok _ => []
  | .error f => [f]

def callbackLine (r : Outgoing) (f : Fault) : Log.Line :=
  ⟨.error, .invoker, "Callback for " ++ target r ++ " failed: " ++ f.message⟩

def logWith (run : Run) (fault? : Option Fault) : List Log.Line :=
  run.log ++ match fault?, run.result with
    | some f, .ok _ => [callbackLine run.request f]
    | _, _ => []

end Run

end HttpTemplate
