import HttpTemplate.Fault

/-!
The words of the command line. The word `--` makes all words after it plain; of the words before it
some are switches. Between the switches stand runs of plain words: the first run with any gives the
template and its assignments, and the words of later runs are not recognized.
-/

namespace HttpTemplate.CommandLine

inductive Switch where
  | help
  | fullResponse
  | ignoreCertificates
  | logLevel
deriving DecidableEq, Repr

namespace Switch

def all : List Switch := [help, fullResponse, ignoreCertificates, logLevel]

def name : Switch → String
  | help => "--help"
  | fullResponse => "--full-response"
  | ignoreCertificates => "--ignore-ssl-errors"
  | logLevel => "--log-level"

def label : Switch → String
  | help => "-h/--help"
  | s => s.name

def candidates (stem : List Char) : List Switch :=
  all.filter fun s => stem.isPrefixOf s.name.toList

end Switch

inductive UsageError where
  | ambiguous (word : String) (candidates : List Switch)
  | ignoredValue (s : Switch) (value : String)
  | missingValue (s : Switch)
  | missingPositionals
  | unrecognized (words : List String)
  | badAssignment (item : String)
deriving DecidableEq, Repr

namespace UsageError

def message : UsageError → String
  | ambiguous word candidates =>
    "ambiguous option: " ++ word ++ " could match " ++ ", ".intercalate (candidates.map Switch.name)
  | ignoredValue s value =>
    "argument " ++ s.label ++ ": ignored explicit argument " ++ Text.quoted value
  | missingValue s => "argument " ++ s.label ++ ": expected one argument"
  | missingPositionals => "the following arguments are required: template, NAME=VALUE"
  | unrecognized words => "unrecognized arguments: " ++ " ".intercalate words
  | badAssignment item => "Expected NAME=VALUE, got " ++ Text.quoted item

def report (e : UsageError) : String := "resttemplate: error: " ++ e.message

end UsageError

def usage : String :=
  "usage: resttemplate [-h] [--full-response] [--ignore-ssl-errors] [--log-level LOG_LEVEL] " ++
    "template [NAME=VALUE ...]"

/-- The level that is asked for. The separator is no level, and a switch to which it is joined is
left with none. -/
inductive LevelChoice where
  | absent
  | named (level : String)
  | emptied
deriving DecidableEq, Repr

def LevelChoice.name? : LevelChoice → Option String
  | named level => some level
  | _ => none

structure Options where
  template : String
  assignments : List String := []
  fullResponse : Bool := false
  ignoreCertificates : Bool := false
  logLevel : LevelChoice := .absent
deriving DecidableEq, Repr

inductive Stop where
  | help
  | usage (e : UsageError)
deriving DecidableEq, Repr

/-- A word that is no plain word: a switch by its name, perhaps with a value, the short form of help
and what is joined to it, if anything, or neither. -/
inductive Flag where
  | named (s : Switch) (value : Option String)
  | short (joined : Option (List Char))
  | unknown (word : String)
deriving DecidableEq, Repr

namespace Flag

def withoutFinalNewline (s : List Char) : List Char :=
  if s.getLast? = some '\n' then s.dropLast else s

def isUnsigned (s : List Char) : Bool :=
  match s.dropWhile Text.isDigit with
  | [] => !s.isEmpty
  | '.' :: fraction => !fraction.isEmpty && fraction.all Text.isDigit
  | _ => false

/-- Negative numbers and words with a space are plain words, also with a dash in front. -/
def unknown? (word : String) (tail : List Char) : Option Flag :=
  if isUnsigned (withoutFinalNewline tail) || tail.contains ' ' then none
  else some (.unknown word)

def ofName (word : String) (tail : List Char) : Except UsageError (Option Flag) :=
  let (stem, value) := Text.splitFirst '=' word.toList
  match Switch.candidates stem with
  | [] => .ok (unknown? word tail)
  | [s] => .ok (some (.named s (value.map String.ofList)))
  | candidates => .error (.ambiguous word candidates)

def ofWord (word : String) : Except UsageError (Option Flag) :=
  match word.toList with
  | '-' :: '-' :: tail => ofName word ('-' :: tail)
  | ['-', 'h'] => .ok (some (.short none))
  | '-' :: 'h' :: '=' :: value => .ok (some (.short (some value)))
  | '-' :: 'h' :: tail => .ok (some (.short (some tail)))
  | '-' :: c :: tail => .ok (unknown? word (c :: tail))
  | _ => .ok none

end Flag

def separator : String := "--"

/-- The plain words before the first flag, and every flag with the plain words after it. -/
structure Sorted where
  run : List String
  flags : List (Flag × List String)
deriving DecidableEq, Repr

def sort : List String → Except UsageError Sorted
  | [] => .ok ⟨[], []⟩
  | word :: rest =>
    if word = separator then .ok ⟨word :: rest, []⟩
    else do
      let flag ← Flag.ofWord word
      let s ← sort rest
      match flag with
      | none => return ⟨word :: s.run, s.flags⟩
      | some flag => return ⟨[], (flag, s.run) :: s.flags⟩

/-- The template and its assignments in a run; of the words for each the first `--` is left out. -/
def positionals? : List String → Option (String × List String)
  | [] => none
  | ["--"] => none
  | "--" :: template :: rest => some (template, rest.erase separator)
  | template :: "--" :: rest => some (template, rest.erase separator)
  | template :: rest => some (template, rest.erase separator)

structure Progress where
  positionals : Option (String × List String) := none
  fullResponse : Bool := false
  ignoreCertificates : Bool := false
  logLevel : LevelChoice := .absent
  unrecognized : List String := []

namespace Progress

def takeRun (p : Progress) (run : List String) : Progress :=
  match p.positionals, positionals? run with
  | none, some found => { p with positionals := some found }
  | _, _ => { p with unrecognized := p.unrecognized ++ run }

def refuse (s : Switch) (value : List Char) : Stop := .usage (.ignoredValue s (String.ofList value))

/-- What is joined to the short form of help may only be that form again. -/
def shortHelp : List Char → Stop
  | ['h'] => .help
  | 'h' :: tail => shortHelp tail
  | joined => refuse .help joined

def setLevel (p : Progress) (level : LevelChoice) : Progress := { p with logLevel := level }

def takeLevel (p : Progress) (value : Option String) (run : List String) :
    Except Stop (Progress × List String) :=
  match value, run with
  | some level, run =>
    .ok (p.setLevel (if level = separator then .emptied else .named level), run)
  | none, [] => .error (.usage (.missingValue .logLevel))
  | none, level :: rest =>
    if level = separator then .error (.usage (.missingValue .logLevel))
    else .ok (p.setLevel (.named level), rest)

def takeFlag (p : Progress) (run : List String) : Flag → Except Stop (Progress × List String)
  | .unknown word => .ok ({ p with unrecognized := p.unrecognized ++ [word] }, run)
  | .named .logLevel value => p.takeLevel value run
  | .named s (some value) => .error (refuse s value.toList)
  | .named .help none => .error .help
  | .named .fullResponse none => .ok ({ p with fullResponse := true }, run)
  | .named .ignoreCertificates none => .ok ({ p with ignoreCertificates := true }, run)
  | .short none => .error .help
  | .short (some joined) => .error (shortHelp joined)

def takeFlags (p : Progress) : List (Flag × List String) → Except Stop Progress
  | [] => .ok p
  | (flag, run) :: flags => do
    let (p, rest) ← p.takeFlag run flag
    takeFlags (p.takeRun rest) flags

def options (p : Progress) : Except Stop Options :=
  match p.positionals, p.unrecognized with
  | none, _ => .error (.usage .missingPositionals)
  | some (template, assignments), [] =>
    .ok ⟨template, assignments, p.fullResponse, p.ignoreCertificates, p.logLevel⟩
  | some _, words => .error (.usage (.unrecognized words))

end Progress

def Options.read (words : List String) : Except Stop Options := do
  let sorted ← (sort words).mapError Stop.usage
  let p ← (({} : Progress).takeRun sorted.run).takeFlags sorted.flags
  p.options

end HttpTemplate.CommandLine
