import HttpTemplate.CommandLine.Execution
import HttpTemplate.Proofs.Classification
import HttpTemplate.Proofs.Json.Sorting

/-! What comes of a response can be printed, if its numbers can. Bodies are documents, and those of
failures stand beside a status and a message in another document. -/

namespace HttpTemplate.CommandLine

open Delivery Faults Json

def valueOf : Answer → Value
  | .plain v => v
  | .full r => r.toValue

def NamesError (r : Response) : Prop :=
  r.status = .null → r.errorType.truthy = false ∨ ∃ s, r.errorType = .str s

section Printing

lemma attribute_document {v : Value} (h : Document v) (name : String) :
    v.attribute? name = none := by
  cases h <;> rfl

end Printing

section Responses

variable {r : Response} {o : Outcome}

lemma members_texts (es : Entries String String) :
    Members (es.map fun (k, v) => (.str k, .str v)) := by
  intro e he
  obtain ⟨d, -, rfl⟩ := List.mem_map.mp he
  exact ⟨⟨_, rfl⟩, .str _⟩

lemma answered_cases {fullResponse : Bool} {body : Value}
    (h : r.answered fullResponse body = .ok o) :
    (∃ message, o = ⟨some (.application r.status message body), .plain body, some r⟩) ∨
      (fullResponse = true ∧ ∃ es, r.headers.toTable = .ok es ∧
        o = ⟨none, .full ⟨r.status, es, body⟩, some r⟩) ∨
      (fullResponse = false ∧ o = ⟨none, .plain body, some r⟩) := by
  rw [Response.answered] at h
  obtain ⟨failed, -, h⟩ := bind_eq_ok.mp h
  split at h
  · obtain ⟨message, -, h⟩ := bind_eq_ok.mp h
    cases h
    exact .inl ⟨message, rfl⟩
  · split at h
    · next hfull =>
      obtain ⟨es, hes, h⟩ := bind_eq_ok.mp h
      cases h
      exact .inr (.inl ⟨hfull, es, mapError_eq_ok.mp hes, rfl⟩)
    · next hfull =>
      cases h
      exact .inr (.inr ⟨Bool.eq_false_iff.mpr hfull, rfl⟩)

lemma classify_cases {fullResponse : Bool} {lines : List Log.Line}
    (h : r.classify fullResponse = (.ok o, lines)) :
    (∃ message errorType category,
        o = ⟨some (.transport message errorType category), .plain .null, some r⟩) ∨
      ∃ body, r.decodeBody = .ok (body, lines) ∧ r.answered fullResponse body = .ok o := by
  rw [Response.classify] at h
  split at h
  · split at h
    · next f hf =>
      obtain ⟨category, -, hf⟩ := bind_eq_ok.mp hf
      cases hf
      cases h
      exact .inl ⟨_, _, _, rfl⟩
    · cases h
  · cases hdecode : r.decodeBody with
    | error cause => simp [hdecode] at h
    | ok found =>
      obtain ⟨body, found⟩ := found
      rw [hdecode] at h
      obtain ⟨hanswered, rfl⟩ := Prod.mk.inj h
      exact .inr ⟨body, rfl, hanswered⟩

variable {answer : Outgoing → Except Fault Response} {request : Outgoing} {f : Fault}

lemma awaited_of_fault (h : answer request = .error f) (fullResponse : Bool) :
    (Run.execute answer fullResponse request).awaited = .error f := by
  rw [Run.execute, h]
  cases hends : f.endsProgram <;> simp [Run.awaited, hends]

end Responses

end HttpTemplate.CommandLine
