import HttpTemplate.Fault

/-!
Setting up logging. The root logger gets a handler and a level by the first call only; the loggers
of the transport get theirs by every call, and stay at warnings unless everything is to be logged.
A level that is none is found out as late as it is to be set or compared.
-/

namespace HttpTemplate.Log

/-- What a level name stands for. A few names belong to other values than numbers. -/
inductive Level where
  | number (n : Int)
  | other (v : Value)
deriving Repr

namespace Level

def warning : Int := 30

def debug : Int := 10

def unset : Int := 0

def basicFormat : String := "%(levelname)s:%(name)s:%(message)s"

def style (className format : String) : Value :=
  let shown := "<class 'logging." ++ className ++ "'>"
  .tuple [.record ⟨"type", shown, shown⟩ [], .str format]

def styles : Value :=
  .map [(.str "%", style "PercentStyle" basicFormat),
    (.str "\x7b", style "StrFormatStyle" "\x7blevelname\x7d:\x7bname\x7d:\x7bmessage\x7d"),
    (.str "$",
      style "StringTemplateStyle" "$\x7blevelname\x7d:$\x7bname\x7d:$\x7bmessage\x7d")]

def named : List (String × Level) :=
  [("CRITICAL", number 50), ("FATAL", number 50), ("ERROR", number 40), ("WARNING", number warning),
    ("WARN", number warning), ("INFO", number 20), ("DEBUG", number debug), ("NOTSET", number unset),
    ("BASIC_FORMAT", other (.str basicFormat)), ("_STYLES", other styles)]

def nameOr (preset : String) (name : Option String) : String :=
  let name := name.getD ""
  if name = "" then preset else name

/-- Names are read in upper case, and an unknown one stands for warnings. -/
def ofName (name : Option String) (preset : String := "WARNING") : Level :=
  (named.lookup (Text.upper (nameOr preset name))).getD (number warning)

def refusal : Value → Fault
  | .str name => .unknownLevel name
  | v => .misuse (.notLevel v.literal)

end Level

def transportLoggers : List String := ["httpx", "httpcore"]

structure State where
  rootLevel : Int := Level.warning
  handlers : List String := []
  levels : Entries String Int := []
deriving DecidableEq, Repr

namespace State

def level (s : State) (logger : String) : Int := (Entries.get? logger s.levels).getD Level.unset

def transportLevel (s : State) : Int := s.level "httpx"

def handlerFormat : String := "%(asctime)s %(levelname)s %(name)s: %(message)s"

def quietLevel (level : Int) : Int := if level ≤ Level.debug then level else Level.warning

/-- A root logger without handlers gets one, and then its level; one that has handlers stays. -/
def setRoot (s : State) (level : Level) : State × Option Fault :=
  match s.handlers, level with
  | [], .number n => ({ s with handlers := [handlerFormat], rootLevel := n }, none)
  | [], .other v => ({ s with handlers := [handlerFormat] }, some (Level.refusal v))
  | _ :: _, _ => (s, none)

def setTransport (s : State) : Level → State × Option Fault
  | .number n =>
    let levels := transportLoggers.map fun logger => (logger, quietLevel n)
    ({ s with levels := Entries.putAll s.levels levels }, none)
  | .other v => (s, some (.misuse (.incomparable "<=" v.typeName "int")))

def setup (s : State) (name : Option String) (preset : String := "WARNING") :
    State × Option Fault :=
  let level := Level.ofName name preset
  match s.setRoot level with
  | (s, some f) => (s, some f)
  | (s, none) => s.setTransport level

end State

end HttpTemplate.Log
