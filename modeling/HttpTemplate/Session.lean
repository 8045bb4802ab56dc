import HttpTemplate.Client.Network
import HttpTemplate.Operation

/-!
Sessions: steps that make a template, set its parts, call it and list what it holds. A step that
fails leaves the template as it was. An operation stays bound to the template that made it, also
when the session goes on with another one.
-/

namespace HttpTemplate

inductive Delivery where
  | awaited
  | callback (raises : Option Fault)
  | outsideLoop

inductive Step where
  | make (method url : Value)
  | headers (v : Value)
  | query (v : Value)
  | body (v : Value)
  | attach (a : Attachment)
  | info
  | build (arguments : Arguments)
  | invoke (arguments : Arguments) (delivery : Delivery)
  | gather (calls : List Arguments)
  | operation (names : List Value)
  | call (values : List Value) (delivery : Delivery)
  | respond (url : String) (response : Response)
  | close
  | client

inductive Gathered where
  | refused (f : Fault)
  | finished (result : Except Fault Answer)

inductive StepResult where
  | skipped
  | fault (f : Fault)
  | info (t : Template)
  | changed (t : Template)
  | request (r : Request)
  | awaited (result : Except Fault Answer)
  | delivered (callbacks : List Outcome) (escaped : List Fault)
  | gathered (results : List Gathered)
  | operation (o : Operation)
  | responded (url : String)
  | closed (own : Bool)
  | client (settings : Settings)

structure StepReport where
  result : StepResult
  sent : List Outgoing := []
  log : List Log.Line := []

/-- Without a client the template makes its own, of the network. An operation that has no template
of its own is bound to the current one. -/
structure Session where
  client : Option Client
  settings : Settings
  template : Option Template := none
  operation : Option (Operation × Option Template) := none

namespace Session

variable [Idna]

def answer (s : Session) : Outgoing → Except Fault Response :=
  match s.client with
  | some client => client.answer
  | none => Network.absent

def suspends (s : Session) : Bool := s.client.any Client.suspends

/-- The operation keeps the template that the session leaves. -/
def detached (s : Session) : Option (Operation × Option Template) :=
  s.operation.map fun (o, owner) => (o, owner <|> s.template)

def become (s : Session) (t : Template) : Session :=
  { s with template := some t, operation := s.detached }

def change (s : Session) (t : Template) : Session := { s with template := some t }

def attempt (s : Session) (update : Session → Template → Session)
    (report : Template → StepResult) : Except Fault Template → Session × StepReport
  | .ok t => (update s t, { result := report t })
  | .error f => (s, { result := .fault f })

def deliver (delivery : Delivery) (run : Except Fault Run) : StepReport :=
  match run, delivery with
  | .error f, _ => { result := .fault f }
  | .ok _, .outsideLoop => { result := .fault .notRunning }
  | .ok run, .awaited => { result := .awaited run.awaited, sent := [run.request], log := run.log }
  | .ok run, .callback raises =>
    { result := .delivered run.callbacks run.escaped, sent := [run.request]
      log := run.logWith raises }

def startedRuns (runs : List (Except Fault Run)) : List Run := runs.filterMap Except.toOption

/-- Runs that are waited for together. Those that suspend all send before the first is answered. -/
def gatherLog (suspends : Bool) (runs : List Run) : List Log.Line :=
  if suspends then runs.flatMap (·.before) ++ runs.flatMap (·.after) else runs.flatMap (·.log)

def gather (suspends : Bool) (runs : List (Except Fault Run)) : StepReport where
  result := .gathered (runs.map fun
    | .error f => .refused f
    | .ok run => .finished run.awaited)
  sent := (startedRuns runs).map (·.request)
  log := gatherLog suspends (startedRuns runs)

def stepWith (s : Session) (t : Template) : Step → Session × StepReport
  | .make method url => s.attempt become .info (Template.make s.settings method url)
  | .headers v => s.attempt change .changed (t.setHeaders v)
  | .query v => s.attempt change .changed (t.setQuery v)
  | .body v => s.attempt change .changed (.ok (t.setBody v))
  | .attach a => s.attempt change .info (.ok (t.attach a))
  | .info => (s, { result := .info t })
  | .build arguments =>
    (s, { result := match t.build arguments with
      | .ok r => .request r
      | .error f => .fault f })
  | .invoke arguments delivery => (s, deliver delivery (t.invoke s.answer arguments))
  | .gather calls => (s, gather s.suspends (calls.map (t.invoke s.answer)))
  | .operation names =>
    let o := Operation.ofNames names
    ({ s with operation := some (o, none) }, { result := .operation o })
  | .call values delivery =>
    (s, match s.operation with
      | none => { result := .skipped }
      | some (o, owner) =>
        deliver delivery ((o.arguments values).bind ((owner.getD t).invoke s.answer)))
  | .respond url response =>
    match s.client with
    | some (.stub stub) =>
      ({ s with client := some (.stub (stub.add url response)) }, { result := .responded url })
    | _ => (s, { result := .skipped })
  | .close => (s, { result := .closed s.client.isNone })
  | .client => (s, { result := .client t.settings })

def step (s : Session) (step : Step) : Session × StepReport :=
  match s.template, step with
  | some t, step => s.stepWith t step
  | none, .make method url => s.attempt become .info (Template.make s.settings method url)
  | none, _ => (s, { result := .skipped })

def run (s : Session) : List Step → List StepReport
  | [] => []
  | step :: steps => (s.step step).2 :: run (s.step step).1 steps

end Session

end HttpTemplate
