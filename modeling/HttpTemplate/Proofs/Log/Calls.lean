import HttpTemplate.Proofs.Entries
import HttpTemplate.Proofs.Log.Levels

/-! Calls that set up logging, one after the other, whatever became of those before. The first one
gives the root logger its handler and its level, and each gives the loggers of the transport
theirs. A call with a strange name raises and keeps no other call from what it does. -/

namespace HttpTemplate.Log

open Level State

def State.after (preset : String) (s : State) (names : List (Option String)) : State :=
  names.foldl (fun s name => (s.setup name preset).1) s

def State.faults (preset : String) (s : State) : List (Option String) → List (Option Fault)
  | [] => []
  | name :: names => (s.setup name preset).2 :: faults preset (s.setup name preset).1 names

/-- No call raises, the root logger has one handler and the level that the first call names, and
the loggers of the transport have the level that the last call names if it is at most that of
debugging, and that of warnings otherwise. -/
structure Promised (preset : String) (s : State) (names : List (Option String))
    (hne : names ≠ []) : Prop where
  quiet : ∀ fault ∈ s.faults preset names, fault = none
  handler : (s.after preset names).handlers.length = 1
  root : (s.after preset names).rootLevel = levelOf (nameOr preset (names.head hne))
  transport : ∀ logger ∈ transportLoggers, (s.after preset names).level logger =
    if levelOf (nameOr preset (names.getLast hne)) ≤ 10
    then levelOf (nameOr preset (names.getLast hne)) else 30

/-- What calls make of a state, those that raise among them: the root logger keeps what it has if
it has a handler, and the loggers of the transport have the level of the last call that has one. -/
structure Leaves (preset : String) (s : State) (names : List (Option String)) (t : State) :
    Prop where
  handlers : t.handlers = if names = [] then s.handlers else handled s.handlers
  root : t.rootLevel =
    if s.handlers = [] then (names.head?.bind (number? preset)).getD s.rootLevel else s.rootLevel
  transport : ∀ logger ∈ transportLoggers, t.level logger =
    ((names.reverse.findSome? (number? preset)).map quietLevel).getD (s.level logger)
  others : ∀ logger ∉ transportLoggers, t.level logger = s.level logger

section Runs

variable {preset logger : String} {s t u : State} {names more : List (Option String)}

lemma level_putAll (n : Int) :
    (Entries.get? logger
      (Entries.putAll s.levels (transportLoggers.map fun logger => (logger, n)))).getD unset =
      if logger ∈ transportLoggers then n else s.level logger := by
  have hkeys : (Entries.keys (transportLoggers.map fun logger => (logger, n))).Nodup := by
    simp [Entries.keys, transportLoggers]
  rw [Entries.get?_putAll_of_nodup _ hkeys]
  by_cases h : logger ∈ transportLoggers
  · rw [if_pos h]
    simp only [transportLoggers, List.mem_cons, List.not_mem_nil, or_false] at h
    rcases h with rfl | rfl <;> rfl
  · have hnone : Entries.get? logger (transportLoggers.map fun logger => (logger, n)) = none :=
      Entries.get?_eq_none_iff.mpr (by simpa [Entries.keys] using h)
    rw [if_neg h, hnone, Option.none_or, level]

lemma leaves_setup (preset : String) (s : State) (name : Option String) :
    Leaves preset s [name] (s.setup name preset).1 := by
  cases h : number? preset name with
  | none =>
    rw [(setup_of_none h).1]
    refine ⟨rfl, ?_, fun logger _ => ?_, fun _ _ => rfl⟩
    · simp [h]
    · simp [h, level]
  | some n =>
    rw [setup_of_number h]
    refine ⟨rfl, ?_, fun logger hlogger => ?_, fun logger hlogger => ?_⟩
    · simp [h]
    · rw [level, level_putAll, if_pos hlogger]
      simp [h]
    · rw [level, level_putAll, if_neg hlogger]

lemma Leaves.append (hfirst : Leaves preset s names t) (hlast : Leaves preset t more u) :
    Leaves preset s (names ++ more) u where
  handlers := by
    rw [hlast.handlers, hfirst.handlers]
    cases names with
    | nil => rfl
    | cons name names => simp [handled_handled]
  root := by
    rw [hlast.root, hfirst.root, hfirst.handlers]
    -- once there has been a call, the root logger has a handler and keeps its level
    cases names with
    | nil => cases s.handlers <;> simp
    | cons name names => simp [handled_ne_nil]
  transport logger h := by
    rw [hlast.transport logger h, hfirst.transport logger h, List.reverse_append,
      List.findSome?_append]
    cases more.reverse.findSome? (number? preset) <;> rfl
  others logger h := (hlast.others logger h).trans (hfirst.others logger h)

lemma leaves_after (preset : String) (s : State) (names : List (Option String)) :
    Leaves preset s names (s.after preset names) := by
  induction names generalizing s with
  | nil => exact ⟨rfl, by simp [after], fun _ _ => rfl, fun _ _ => rfl⟩
  | cons name names ih => exact (leaves_setup preset s name).append (ih _)

lemma faults_setup (preset : String) (s : State) (names : List (Option String)) :
    List.Forall₂ (fun name fault => fault = none ↔ ¬ Strange preset name) names
      (s.faults preset names) := by
  induction names generalizing s with
  | nil => exact .nil
  | cons name names ih => exact .cons (setup_quiet_iff s name preset) (ih _)

lemma forall_none_iff {p : Option String → Prop} {faults : List (Option Fault)}
    (h : List.Forall₂ (fun name fault => fault = none ↔ p name) names faults) :
    (∀ fault ∈ faults, fault = none) ↔ ∀ name ∈ names, p name := by
  induction h with
  | nil => simp
  | cons hname _ ih => rw [List.forall_mem_cons, List.forall_mem_cons, hname, ih]

end Runs

section Promises

variable {preset : String} {s : State} {names : List (Option String)}

lemma handlers_after (hs : s.handlers = []) (hne : names ≠ []) :
    (s.after preset names).handlers = [handlerFormat] := by
  rw [(leaves_after preset s names).handlers, if_neg hne, hs, handled]

lemma rootLevel_after (hs : s.handlers = []) (hne : names ≠ [])
    (h : ¬ Strange preset (names.head hne)) :
    (s.after preset names).rootLevel = levelOf (nameOr preset (names.head hne)) := by
  rw [(leaves_after preset s names).root, if_pos hs, List.head?_eq_some_head hne, Option.bind_some,
    number?_of_not_strange h, Option.getD_some]

lemma level_after {logger : String} (hlogger : logger ∈ transportLoggers) (hne : names ≠ [])
    (h : ¬ Strange preset (names.getLast hne)) :
    (s.after preset names).level logger =
      quietLevel (levelOf (nameOr preset (names.getLast hne))) := by
  have hreverse : names.reverse = names.getLast hne :: names.dropLast.reverse := by
    conv_lhs => rw [← List.dropLast_append_getLast hne, List.reverse_concat]
  rw [(leaves_after preset s names).transport logger hlogger, hreverse, List.findSome?_cons,
    number?_of_not_strange h]
  rfl

end Promises

theorem calls_promised_iff (preset : String) (s : State) (hs : s.handlers = [])
    (names : List (Option String)) (hne : names ≠ []) :
    (Promised preset s names hne ↔ ∀ name ∈ names, ¬ Strange preset name) ∧
    Leaves preset s names (s.after preset names) ∧
    List.Forall₂ (fun name fault => fault = none ↔ ¬ Strange preset name) names
      (s.faults preset names) := by
  have hfaults := faults_setup preset s names
  refine ⟨⟨fun h => (forall_none_iff hfaults).mp h.quiet, fun h => ?_⟩,
    leaves_after preset s names, hfaults⟩
  exact {
    quiet := (forall_none_iff hfaults).mpr h
    handler := by rw [handlers_after hs hne, List.length_singleton]
    root := rootLevel_after hs hne (h _ (List.head_mem hne))
    transport := fun logger hlogger => level_after hlogger hne (h _ (List.getLast_mem hne)) }

def started : State := { rootLevel := 50, levels := [("httpcore", 20)] }

def mixed : List (Option String) := [some "Debug", none, some "loud", some "notset"]

theorem calls_promised_mixed :
    started.handlers = [] ∧ ∃ hne : mixed ≠ [], Promised "WARNING" started mixed hne ∧
      Leaves "WARNING" started mixed (started.after "WARNING" mixed) ∧
      (started.after "WARNING" mixed).rootLevel = 10 ∧
      (started.after "WARNING" mixed).level "httpcore" = 0 := by
  have hne : mixed ≠ [] := List.cons_ne_nil _ _
  have hnames : ∀ name ∈ mixed, ¬ Strange "WARNING" name := by
    decide +kernel
  obtain ⟨hiff, hleaves, -⟩ := calls_promised_iff "WARNING" started rfl mixed hne
  have hpromised := hiff.mpr hnames
  have hroot : levelOf "Debug" = 10 := by decide +kernel
  have htransport : levelOf "notset" = 0 := by decide +kernel
  refine ⟨rfl, hne, hpromised, hleaves, hpromised.root.trans hroot, ?_⟩
  rw [hpromised.transport "httpcore" (by decide)]
  change (if levelOf "notset" ≤ 10 then levelOf "notset" else 30) = 0
  rw [htransport]
  rfl

theorem format_name_raises :
    ({} : State).faults "WARNING" [some "basic_format"] = [some (.unknownLevel basicFormat)] ∧
      ({} : State).after "WARNING" [some "basic_format"] = { handlers := [handlerFormat] } ∧
      ¬ Promised "WARNING" {} [some "basic_format"] (List.cons_ne_nil _ _) := by
  have hupper : Text.upper (nameOr "WARNING" (some "basic_format")) = "BASIC_FORMAT" := by
    decide +kernel
  have hsetup : ({} : State).setup (some "basic_format") =
      ({ handlers := [handlerFormat] }, some (.unknownLevel basicFormat)) := by
    rw [setup, ofName, hupper]
    rfl
  have hfaults : ({} : State).faults "WARNING" [some "basic_format"] =
      [some (.unknownLevel basicFormat)] := by
    rw [faults, hsetup]
    rfl
  refine ⟨hfaults, congrArg Prod.fst hsetup, fun h => ?_⟩
  exact Option.some_ne_none _ (h.quiet _ (hfaults ▸ List.mem_singleton_self _))

end HttpTemplate.Log
