import HttpTemplate.Response
import HttpTemplate.Request

/-!
Transports that report through a completion callback. Each call of the callback hands over an
error, an answer and a body. Calls for several requests may come in any order, wait for their turn,
and only the first call for a request counts. An answer may be a response, a mapping or an object
with attributes.
-/

namespace HttpTemplate

namespace Completion

inductive Failure where
  | fault (f : Fault)
  | value (v : Value)
deriving Repr

inductive Reply where
  | response (r : Response)
  | value (v : Value)
deriving Repr

structure Call where
  error : Failure := .value .null
  reply : Reply := .value .null
  body : Value := .null
deriving Repr

def attributeOf (v : Value) (name : String) : Value := (v.attribute? name).getD .null

def ofMapping (data : Table) (body : Value) : Response :=
  Response.ofMapping (if body.isNull then data else data.put (.str "body") body)

def ofObject (v : Value) (body : Value) : Except Misuse Response := do
  let headers ← Header.normalize (attributeOf v "headers")
  return Response.ofMapping
    [(.str "status_code", (v.attribute? "status_code").getD (attributeOf v "statusCode")),
      (.str "headers", headers.toValue),
      (.str "body", body),
      (.str "url", attributeOf v "url")]

def withBody (r : Response) (body : Value) : Response :=
  if r.text.truthy || r.content.truthy then r
  else match body with
    | .bytes _ | .str _ =>
      let (text, content) := Response.bodyParts body
      { r with text := .str text, content := .bytes content }
    | _ => r

def withUrl (r : Response) (url : Value) : Response := if r.url.isNull then { r with url } else r

def unsettled (reply : Reply) (body : Value) : Except Misuse Response :=
  match reply with
  | .response r => .ok r
  | .value (.map data) => .ok (ofMapping data body)
  | .value v => ofObject v body

def response (reply : Reply) (body url : Value) : Except Misuse Response :=
  (unsettled reply body).map fun r => withUrl (withBody r body) url

def Call.result (c : Call) (url : Value) : Except Fault Response :=
  match c.error with
  | .value .null => (response c.reply c.body url).mapError Fault.misuse
  | .fault f => .error f
  | .value v => .error (.transport (.str v.text) .null .unknown)

/-- The end of an iteration cannot be handed to who waits. A call with such an error is refused. -/
def Call.isRefused (c : Call) : Bool :=
  match c.error with
  | .fault (.foreign e) => e.name == "StopIteration"
  | _ => false

abbrev Settled := Entries Nat Call

def Settled.settle (s : Settled) (request : Nat) (c : Call) : Settled :=
  if c.isRefused then s
  else match s.get? request with
    | some _ => s
    | none => s.put request c

/-- Calls wait for their turn in the order in which they are made, whatever thread makes them. -/
structure Loop where
  waiting : List (Nat × Call) := []
  settled : Settled := []

inductive Event where
  | call (request : Nat) (c : Call)
  | turn
deriving Repr

namespace Loop

def step (l : Loop) : Event → Loop
  | .call request c => { l with waiting := l.waiting ++ [(request, c)] }
  | .turn =>
    match l.waiting with
    | [] => l
    | (request, c) :: waiting => ⟨waiting, l.settled.settle request c⟩

def run (l : Loop) (events : List Event) : Loop := events.foldl step l

def result? (l : Loop) (request : Nat) (url : Value) : Option (Except Fault Response) :=
  (l.settled.get? request).map (·.result url)

end Loop

end Completion

structure Completion where
  raises : Option Fault := none
  calls : List Completion.Call
deriving Repr

namespace Completion

def settle? (c : Completion) (url : Value) : Option (Except Fault Response) :=
  match c.raises with
  | some f => some (.error f.leavingTask)
  | none =>
    let made := c.calls.map (Event.call 0)
    let taken := c.calls.map fun _ => Event.turn
    (Loop.run {} (made ++ taken)).result? 0 url

end Completion

end HttpTemplate
