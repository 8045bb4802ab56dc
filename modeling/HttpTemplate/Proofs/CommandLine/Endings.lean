import HttpTemplate.Proofs.CommandLine.Lines
import HttpTemplate.Proofs.CommandLine.Printing
import HttpTemplate.Proofs.Descriptors
import HttpTemplate.Proofs.Log.Levels

/-! How an execution of the command line ends. Of the faults that can occur before a request is sent
and of those that a client may raise, the ones that have an exit status are told from those that
escape. -/

namespace HttpTemplate.CommandLine

open Delivery Descriptors Execution Faults Json
open Log (strangeLevels)

def prepared [Idna] (l : Line) (s : Surroundings) : Except Fault (Template × Request) := do
  let descriptor ← Descriptor.load s.read l.template
  let settings := settingsFor l.options s.environment
  let t ← Template.ofDescriptor settings (withFlag l.options descriptor)
  let request ← t.build (argumentsOf (Entries.ofPairs l.items))
  return (t, request)

def invoked [Idna] (l : Line) (s : Surroundings) : Except Fault Answer := do
  let (t, request) ← prepared l s
  (Run.execute s.answer t.fullResponse request.outgoing).awaited

def preparation [Idna] (o : Options) (values : Entries String String) (s : Surroundings) :
    Except Fault (Template × Request) := do
  let descriptor ← Descriptor.load s.read o.template
  let t ← Template.ofDescriptor (settingsFor o s.environment) (withFlag o descriptor)
  let request ← t.build (argumentsOf values)
  return (t, request)

def invocation [Idna] (o : Options) (values : Entries String String) (s : Surroundings) :
    Except Fault Answer := do
  let (t, request) ← preparation o values s
  (Run.execute s.answer t.fullResponse request.outgoing).awaited

/-- The fault has a message that can be printed, or is an answer that can. -/
inductive Foreseen : Fault → Prop
  | reported {f : Fault} : Ending.isReported f = true → f.isWritable = true → Foreseen f
  | printed {status body : Value} {message text : String} :
      Ending.document (Ending.errorValue status message body) = .ok text →
      Foreseen (.application status message body)

/-- The endings that the exit statuses stand for: 0 for a value, 2 for a fault of the template that
is found before anything is sent, and 1 for every other fault. -/
inductive Promised [Idna] (l : Line) (s : Surroundings) : Ending → Prop
  | value {a : Answer} {text : String} : invoked l s = .ok a →
      Ending.document (valueOf a) = .ok text → Promised l s (.exit 0 text "")
  | template {f : Fault} : prepared l s = .error f → Ending.isTemplateFault f = true →
      Promised l s (.exit 2 "" (Ending.errorLine f))
  | application {status body : Value} {message text : String} :
      invoked l s = .error (.application status message body) →
      Ending.document (Ending.errorValue status message body) = .ok text →
      Promised l s (.exit 1 text "")
  | other {f : Fault} : invoked l s = .error f →
      (∀ g, prepared l s = .error g → Ending.isTemplateFault g = false) →
      (∀ status message body, f ≠ .application status message body) →
      Promised l s (.exit 1 "" (Ending.errorLine f))

/-- No number that is printed for a result has too many digits to be written. -/
def Presentable : Except Fault Answer → Prop
  | .ok a => (valueOf a).isWritable = true
  | .error (.application status _ body) => status.isWritable = true ∧ body.isWritable = true
  | .error f => f.isWritable = true

def Line.HasLevel (l : Line) : Prop :=
  Text.upper (l.options.logLevel.name?.getD "") ∉ strangeLevels

structure Uneventful [Idna] (l : Line) (s : Surroundings) : Prop where
  level : l.HasLevel
  url : ∀ cause, prepared l s ≠ .error (.url cause)
  attachments : ∀ typeName, prepared l s ≠ .error (.misuse (.notIterable typeName))
  raised : ∀ t request f, prepared l s = .ok (t, request) →
    s.answer request.outgoing = .error f → Foreseen f
  answered : ∀ t request r, prepared l s = .ok (t, request) →
    s.answer request.outgoing = .ok r → NamesError r ∧ Presentable (invoked l s)

section Levels

lemma setup_ok_iff (st : Log.State) (name : Option String) :
    (st.setup name).2 = none ↔ Text.upper (name.getD "") ∉ strangeLevels := by
  rw [Log.setup_quiet_iff, Log.Strange, Log.Level.nameOr]
  by_cases hempty : name.getD "" = ""
  · have hwarning : Text.upper "WARNING" = "WARNING" := by decide +kernel
    have hupper : Text.upper "" = "" := by decide +kernel
    simp [hempty, hwarning, hupper, strangeLevels]
  · simp only [if_neg hempty]

end Levels

section Faults

variable {f : Fault}

end Faults

section Preparation

variable {l : Line} {s : Surroundings} {f : Fault}

lemma members_withFlag {o : Options} {descriptor : Table} (h : Members descriptor) :
    Members (withFlag o descriptor) := by
  rw [withFlag]
  split
  · exact members_put h (.bool true)
  · exact h

lemma preparation_fault [Idna] {o : Options} {values : Entries String String}
    (h : preparation o values s = .error f) : Preparatory f := by
  rcases bind_eq_error.mp h with h | ⟨descriptor, hload, h⟩
  · exact load_fault h
  have hd := members_withFlag (o := o) (members_load hload)
  rcases bind_eq_error.mp h with h | ⟨t, ht, h⟩
  · rcases bind_eq_error.mp h with h | ⟨u, -, h⟩
    · exact start_fault h
    · exact fill_fault h
  obtain ⟨u, hstart, hfill⟩ := bind_eq_ok.mp ht
  have ht : Documented t := documented_fill hd (documented_start hstart) hfill
  rcases bind_eq_error.mp h with h | ⟨request, -, h⟩
  · exact build_preparatory ht (members_texts _) h
  · cases h

lemma ending_ofDescriptor [Idna] (settings : Settings) (arguments : Arguments) (log : Log.State)
    (descriptor : Table) :
    (ofDescriptor settings s arguments log descriptor).ending = .ofResult (do
      let t ← Template.ofDescriptor settings descriptor
      let request ← t.build arguments
      (Run.execute s.answer t.fullResponse request.outgoing).awaited) := by
  rw [ofDescriptor.eq_def, Template.ofDescriptor]
  cases Template.start settings descriptor with
  | error f => rfl
  | ok t =>
    cases hfill : t.fill descriptor with
    | error f => simp only [hfill, bind, Except.bind]; rfl
    | ok t =>
      cases hbuild : t.build arguments with
      | error f => simp only [hfill, hbuild, invoke_of_fault hbuild, bind, Except.bind]; rfl
      | ok request => simp only [hfill, hbuild, invoke_of_build hbuild, bind, Except.bind]

lemma ending_ofArguments [Idna] (o : Options) (values : Entries String String) (log : Log.State) :
    (ofArguments o s log (argumentsOf values)).ending = .ofResult (invocation o values s) := by
  rw [ofArguments, invocation, preparation]
  cases Descriptor.load s.read o.template with
  | error f => rfl
  | ok descriptor =>
    rw [ending_ofDescriptor]
    simp only [bind_assoc, pure_bind]
    rfl

end Preparation

section Endings

variable {l : Line} {s : Surroundings} {f : Fault} {t : Template} {request : Request}

def Settles [Idna] (l : Line) (s : Surroundings) : Prop :=
  (Uneventful l s ∧ Promised l s (.ofResult (invoked l s))) ∨
    (¬ Uneventful l s ∧ ∃ f, Ending.ofResult (invoked l s) = .escaped f)

end Endings

def search : Line where
  before := [.fullResponse]
  template := "t.json"
  items := [("a", "1")]
  after := [.joinedLevel "info"]
  plain := ⟨by decide, rfl⟩
  named := by
    rintro e (_ | ⟨_, ⟨⟩⟩)
    exact ⟨by decide, 'a', [], rfl, by decide⟩
  proper := by rintro s (_ | ⟨_, _ | ⟨_, ⟨⟩⟩⟩) <;> trivial

def searching (url : String) : String :=
  "\x7b\"url\": \"" ++ url ++ "\", \"query\": \x7b\"q\": \"\x7ba\x7d\"\x7d\x7d"

def welcome : Response := { ok := .bool true, status := .int 200, text := .str "hi" }

def around (file : String) : Surroundings where
  read _ := .ok (Text.Utf8.encode file)
  answer _ := .ok welcome

lemma exists_of_isNone {α : Type} {x : Except Fault α} (h : (faultOf x).isNone = true) :
    ∃ a, x = .ok a :=
  faultOf_eq_none.mp (Option.isNone_iff_eq_none.mp h)

end HttpTemplate.CommandLine
