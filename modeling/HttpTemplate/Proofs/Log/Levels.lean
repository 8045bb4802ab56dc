import HttpTemplate.Log.Setup
import Mathlib.Tactic.Lemma

/-! Names of levels. In upper case a name stands for the number of its level, or for that of
warnings if no level has it, but two names belong to values that are no levels. A call with one of
these gives the root logger a handler, if it has none, and changes nothing else. -/

namespace HttpTemplate.Log

open Level

/-- Names of levels that belong to other values than numbers. -/
def strangeLevels : List String := ["BASIC_FORMAT", "_STYLES"]

def levelNumbers : List (String × Int) :=
  [("CRITICAL", 50), ("FATAL", 50), ("ERROR", 40), ("WARNING", 30), ("WARN", 30), ("INFO", 20),
    ("DEBUG", 10), ("NOTSET", 0)]

def levelOf (name : String) : Int := (levelNumbers.lookup (Text.upper name)).getD 30

def Strange (preset : String) (name : Option String) : Prop :=
  Text.upper (nameOr preset name) ∈ strangeLevels

instance (preset : String) (name : Option String) : Decidable (Strange preset name) :=
  inferInstanceAs (Decidable (_ ∈ strangeLevels))

def number? (preset : String) (name : Option String) : Option Int :=
  if Strange preset name then none else some (levelOf (nameOr preset name))

def handled : List String → List String
  | [] => [State.handlerFormat]
  | handlers => handlers

variable {preset name : String} {given : Option String} {n : Int}

lemma handled_ne_nil (handlers : List String) : handled handlers ≠ [] := by
  cases handlers <;> exact List.cons_ne_nil _ _

lemma handled_handled (handlers : List String) : handled (handled handlers) = handled handlers := by
  cases handlers <;> rfl

lemma number?_eq_none_iff : number? preset given = none ↔ Strange preset given := by
  simp [number?]

lemma number?_of_not_strange (h : ¬ Strange preset given) :
    number? preset given = some (levelOf (nameOr preset given)) :=
  if_neg h

lemma lookup_map_number (table : List (String × Int)) (name : String) :
    (table.map fun e => (e.1, number e.2)).lookup name = (table.lookup name).map .number := by
  induction table with
  | nil => rfl
  | cons e table ih =>
    rw [List.map_cons, List.lookup_cons, List.lookup_cons, ih]
    cases name == e.1 <;> rfl

lemma lookup_of_strange (h : name ∈ strangeLevels) : ∃ v, named.lookup name = some (.other v) := by
  rcases List.mem_cons.mp h with rfl | h
  · exact ⟨_, rfl⟩
  · obtain rfl := List.mem_singleton.mp h
    exact ⟨_, rfl⟩

lemma lookup_of_notMem (h : name ∉ strangeLevels) :
    named.lookup name = (levelNumbers.lookup name).map .number := by
  have hnamed : named = (levelNumbers.map fun e => (e.1, number e.2)) ++
      [("BASIC_FORMAT", .other (.str basicFormat)), ("_STYLES", .other styles)] := rfl
  have hstrange : List.lookup name
      [("BASIC_FORMAT", Level.other (.str basicFormat)), ("_STYLES", .other styles)] = none := by
    rw [List.lookup_eq_none_iff]
    simpa [strangeLevels] using h
  rw [hnamed, List.lookup_append, lookup_map_number, hstrange, Option.or_none]

lemma ofName_of_number (h : number? preset given = some n) : ofName given preset = .number n := by
  rw [number?] at h
  split at h
  · cases h
  · next hname =>
    cases h
    rw [ofName, lookup_of_notMem hname, levelOf]
    cases levelNumbers.lookup (Text.upper (nameOr preset given)) <;> rfl

lemma ofName_of_none (h : number? preset given = none) : ∃ v, ofName given preset = .other v := by
  obtain ⟨v, hv⟩ := lookup_of_strange (number?_eq_none_iff.mp h)
  exact ⟨v, by rw [ofName, hv, Option.getD_some]⟩

section Calls

variable {s : State}

lemma setup_of_number (h : number? preset given = some n) :
    s.setup given preset =
      ({ rootLevel := if s.handlers = [] then n else s.rootLevel
         handlers := handled s.handlers
         levels := Entries.putAll s.levels
           (transportLoggers.map fun logger => (logger, State.quietLevel n)) }, none) := by
  obtain ⟨rootLevel, handlers, levels⟩ := s
  rw [State.setup, ofName_of_number h]
  cases handlers <;> rfl

lemma setup_of_none (h : number? preset given = none) :
    (s.setup given preset).1 = { s with handlers := handled s.handlers } ∧
      (s.setup given preset).2 ≠ none := by
  obtain ⟨v, hv⟩ := ofName_of_none h
  obtain ⟨rootLevel, handlers, levels⟩ := s
  rw [State.setup, hv]
  cases handlers with
  | nil => exact ⟨rfl, Option.some_ne_none _⟩
  | cons handler handlers => exact ⟨rfl, Option.some_ne_none _⟩

lemma setup_quiet_iff (s : State) (given : Option String) (preset : String) :
    (s.setup given preset).2 = none ↔ ¬ Strange preset given := by
  rw [← number?_eq_none_iff]
  cases h : number? preset given with
  | none => simp [(setup_of_none (s := s) h).2]
  | some n => simp [setup_of_number h]

end Calls

end HttpTemplate.Log
