import HttpTemplate.Proofs.Classification
import HttpTemplate.Proofs.Number.Numeral

/-! The message of a failure. It comes from the first of several sources that has one, and the
status has one unless its number has too many digits to be written. Of a text of blanks alone,
which is no source, the JSON is shown all the same. -/

namespace HttpTemplate.Messages

open Delivery Faults

inductive First : List (Option String) → String → Prop
  | here (text : String) (sources : List (Option String)) : First (some text :: sources) text
  | later {sources : List (Option String)} {text : String} : First sources text →
      First (none :: sources) text

def wordingAt? : List String → Value → Option String
  | [], .str s => if s = "" then none else some s
  | name :: path, .map es => (Entries.get? (.str name) es).bind (wordingAt? path)
  | _, _ => none

def jsonText? : Value → Option String
  | .null | .str _ | .map [] | .list [] => none
  | v => (Json.write .lenient v).toOption

def numberText? (n : Int) : Option String :=
  if Numeral.isWritable n then some (Text.decimalInt n) else none

def sources (status : Int) (body : Value) : List (Option String) :=
  [wordingAt? ["error", "message"] body, wordingAt? ["message"] body, wordingAt? ["error"] body,
    body.trimmedText?, jsonText? body, Status.reason? (.int status),
    (numberText? status).map ("HTTP " ++ ·)]

section First

variable {sources : List (Option String)} {text other : String}

@[simp] lemma first_some : First (some other :: sources) text ↔ text = other := by
  constructor
  · rintro ⟨⟩
    rfl
  · rintro rfl
    exact .here text sources

@[simp] lemma first_none : First (none :: sources) text ↔ First sources text := by
  constructor
  · rintro (_ | h)
    exact h
  · exact .later

lemma First.mem (h : First sources text) : some text ∈ sources := by
  induction h with
  | here => exact List.mem_cons_self
  | later _ ih => exact List.mem_cons_of_mem _ ih

lemma first_iff : First sources text ↔ sources.foldr Option.or none = some text := by
  induction sources with
  | nil =>
    constructor
    · rintro ⟨⟩
    · intro h
      cases h
  | cons source sources ih =>
    cases source with
    | none => rw [first_none, ih, List.foldr_cons, Option.none_or]
    | some other => rw [first_some, List.foldr_cons, Option.some_or, Option.some.injEq, eq_comm]

lemma First.unique (h : First sources text) (hother : First sources other) : text = other :=
  Option.some.inj ((first_iff.mp h).symm.trans (first_iff.mp hother))

end First

section Texts

variable {v body : Value} {text : String} {status : Int}

end Texts

section Failures

variable {body : Value} {text : String} {status : Int}

end Failures

section Responses

variable {r : Response} {status : Int} {body : Value}

end Responses

def refusal : Response where
  ok := .bool true
  status := .int 422
  headers := .map [(.str "content-type", .str "application/json")]
  text := .str "\x7b\"error\": \x7b\"message\": \"\"\x7d, \"message\": \"nope\"\x7d"

end HttpTemplate.Messages
