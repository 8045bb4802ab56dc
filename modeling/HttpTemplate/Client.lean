import HttpTemplate.Client.Completion
import HttpTemplate.Client.Stub

/-!
The clients that a template can be given. To the rest of the library a client is a function from
requests to responses or faults, and any such function will do.
-/

namespace HttpTemplate

/-- `other` is any client whose answers depend on the request alone. -/
inductive Client where
  | stub (s : Stub)
  | raising (f : Fault)
  | completing (c : Completion)
  | other (answer : Outgoing → Except Fault Response) (suspends : Bool)

namespace Client

def pending : Fault := .general "the transport made no call"

def answer : Client → Outgoing → Except Fault Response
  | stub s, r => (s.answer r).mapError Fault.misuse
  | raising f, _ => .error f.leavingTask
  | completing c, r => (c.settle? r.url).getD (.error pending)
  | other answer _, r => answer r

/-- Whether other requests get their turn between sending a request and its answer. -/
def suspends : Client → Bool
  | completing c => c.raises.isNone
  | other _ suspends => suspends
  | _ => false

end Client

end HttpTemplate
