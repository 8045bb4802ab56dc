import HttpTemplate.Proofs.Headers
import HttpTemplate.Proofs.Json.Reading
import HttpTemplate.Session

/-! The delivery of a request's outcome. A client that raises no more than ordinary faults and
answers with responses of the proper types is asked once, for the request that was built, and what
comes of it is delivered once. -/

namespace HttpTemplate.Delivery

open Faults Session

section Wordings

variable {status body : Value}

end Wordings

section Classification

variable {r : Response}

lemma datum_text {body : Value} {s : String} (h : Response.document? (.str s) = .ok (some body)) :
    Json.Datum body := by
  simp only [Response.document?, Except.ok.injEq] at h
  cases hs : Json.read s with
  | error cause => simp [hs, Except.toOption] at h
  | ok v =>
    rw [hs] at h
    cases h
    exact Json.datum_read hs

lemma decodeBody_datum (htext : ∃ s, r.text = .str s) (hheaders : ∃ es, r.headers = .map es) :
    ∃ body lines, r.decodeBody = .ok (body, lines) ∧ Json.Datum body := by
  obtain ⟨s, hs⟩ := htext
  obtain ⟨es, hes⟩ := hheaders
  rw [Response.decodeBody]
  rw [hs, hes, Header.isJson_map]
  split
  · exact ⟨.str s, [], rfl, .str s⟩
  · cases Text.mentions (Text.lower (Header.valueIn es (.str "content-type") "")) "json" with
    | false => exact ⟨.str s, [], rfl, .str s⟩
    | true =>
      cases hd : Response.document? (.str s) with
      | error cause => cases hd
      | ok document =>
        cases document with
        | none => exact ⟨.str s, [r.unparsedLine], rfl, .str s⟩
        | some body => exact ⟨body, [], rfl, datum_text hd⟩

end Classification

section Execution

variable {answer : Outgoing → Except Fault Response} {fullResponse : Bool} {request : Outgoing}

lemma invoke_of_build [Idna] {t : Template} {arguments : Arguments} {request : Request}
    (h : t.build arguments = .ok request) :
    t.invoke answer arguments = .ok (.execute answer t.fullResponse request.outgoing) := by
  rw [Template.invoke]
  rw [h]
  rfl

lemma invoke_of_fault [Idna] {t : Template} {arguments : Arguments} {f : Fault}
    (h : t.build arguments = .error f) : t.invoke answer arguments = .error f := by
  rw [Template.invoke]
  rw [h]
  rfl

end Execution

def awaitedOf (o : Outcome) : Except Fault Answer :=
  match o.error with
  | some f => .error f
  | none => .ok o.value

lemma awaited_of_result {run : Run} {o : Outcome} (h : run.result = .ok o) :
    run.awaited = awaitedOf o := by
  obtain ⟨error, value, response⟩ := o
  cases error <;> simp only [Run.awaited, awaitedOf, h]

section Outcomes

variable {answer : Outgoing → Except Fault Response} {t : Template} {arguments : Arguments}

end Outcomes

def unanswered (errorType : Value) : Outgoing → Except Fault Response :=
  fun _ => .ok { ok := .bool false, errorType }

end HttpTemplate.Delivery
