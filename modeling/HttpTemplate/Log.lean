/-!
Log lines: how severe they are, which part of the library they come from, and their text.
-/

namespace HttpTemplate.Log

inductive Source where
  | invoker
  | network
deriving DecidableEq, Repr

def Source.name : Source → String
  | invoker => "resttemplate.invoker"
  | network => "resttemplate.http.httpx_client"

inductive Severity where
  | debug
  | warning
  | error
deriving DecidableEq, Repr

def Severity.name : Severity → String
  | debug => "DEBUG"
  | warning => "WARNING"
  | error => "ERROR"

structure Line where
  severity : Severity
  source : Source
  message : String
deriving DecidableEq, Repr

def Line.text (l : Line) : String := l.severity.name ++ " " ++ l.source.name ++ ": " ++ l.message

end HttpTemplate.Log
