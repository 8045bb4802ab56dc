import HttpTemplate.Response
import HttpTemplate.Request

/-!
A client with prepared responses, chosen by the whole URL, else by the URL before its query.
-/

namespace HttpTemplate

structure Stub where
  responses : Entries String Response := []
  default : Option Response := none
deriving Repr

namespace Stub

def add (s : Stub) (url : String) (r : Response) : Stub :=
  { s with responses := s.responses.put url r }

def withoutQuery (url : String) : String := String.ofList (Text.splitFirst '?' url.toList).1

def unanswered : Response :=
  { ok := .bool false, errorMessage := .str "No stubbed response configured" }

def answerTo (s : Stub) (url : String) : Response :=
  ((s.responses.get? url <|> s.responses.get? (withoutQuery url)) <|> s.default).getD unanswered

def answer (s : Stub) (request : Outgoing) : Except Misuse Response :=
  match request.url with
  | .str url => .ok (s.answerTo url)
  | .bytes _ => .error .bytesExpected
  | v => .error (v.noMethod "split")

end Stub

end HttpTemplate
