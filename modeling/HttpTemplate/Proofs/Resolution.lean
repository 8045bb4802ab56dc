import HttpTemplate.Proofs.Faults
import HttpTemplate.Template

/-! Building a request resolves the variables of a template one after the other, in the order in
which they occur, and fails with the first of them that does. Faults of the assembly come only when
all of them resolve. -/

namespace HttpTemplate.Resolution

open Faults Template

def firstFault? (arguments : Arguments) : List Variable → Option VariableFault
  | [] => none
  | v :: vs => (faultOf (v.resolve arguments)).or (firstFault? arguments vs)

section Order

variable (arguments : Arguments)

lemma firstFault_append (vs ws : List Variable) :
    firstFault? arguments (vs ++ ws) =
      (firstFault? arguments vs).or (firstFault? arguments ws) := by
  induction vs with
  | nil => rfl
  | cons v vs ih => simp only [List.cons_append, firstFault?, ih, Option.or_assoc]

lemma firstFault_singleton (v : Variable) :
    firstFault? arguments [v] = faultOf (v.resolve arguments) := by
  simp [firstFault?]

lemma firstFault_eq_none {vs : List Variable} :
    firstFault? arguments vs = none ↔ ∀ v ∈ vs, ∃ x, v.resolve arguments = .ok x := by
  induction vs with
  | nil => simp [firstFault?]
  | cons v vs ih => simp [firstFault?, ih, faultOf_eq_none]

lemma firstFault_eq_some {vs : List Variable} {f : VariableFault}
    (h : firstFault? arguments vs = some f) :
    ∃ before v after, vs = before ++ v :: after ∧
      (∀ w ∈ before, ∃ x, w.resolve arguments = .ok x) ∧ v.resolve arguments = .error f := by
  induction vs with
  | nil => simp [firstFault?] at h
  | cons v vs ih =>
    rcases Option.or_eq_some_iff.mp h with hv | ⟨hv, hvs⟩
    · exact ⟨[], v, vs, rfl, by simp, faultOf_eq_some.mp hv⟩
    · obtain ⟨before, w, after, rfl, hb, hw⟩ := ih hvs
      refine ⟨v :: before, w, after, rfl, ?_, hw⟩
      rintro u (_ | ⟨_, hu⟩)
      · exact faultOf_eq_none.mp hv
      · exact hb u hu

lemma faultOf_renderToken (t : Token) :
    faultOf (Leaf.renderToken arguments t) = firstFault? arguments t.variable?.toList := by
  cases t with
  | literal text => rfl
  | placeholder v => exact (faultOf_map _ _).trans (firstFault_singleton arguments v).symm

lemma faultOf_renderTokens (ts : List Token) :
    faultOf (Leaf.renderTokens arguments ts) =
      firstFault? arguments (ts.filterMap Token.variable?) := by
  induction ts with
  | nil => rfl
  | cons t ts ih =>
    rw [Leaf.renderTokens, faultOf_pair, faultOf_renderToken, ih, ← firstFault_append]
    cases t <;> rfl

lemma single_eq_some {l : Leaf} {v : Variable} (h : l.single? = some v) :
    l.tokens = [.placeholder v] := by
  simp only [Leaf.single?] at h
  split at h
  · next ht => rw [ht, Option.some.inj h]
  · cases h

lemma faultOf_leaf (l : Leaf) :
    faultOf (l.substitute arguments) = firstFault? arguments l.occurrences := by
  rw [Leaf.substitute]
  split
  · next v hv =>
    rw [Leaf.occurrences, single_eq_some hv]
    exact (firstFault_singleton arguments v).symm
  · rw [faultOf_map, faultOf_renderTokens, Leaf.occurrences]

mutual

lemma faultOf_substitute (n : Node) :
    faultOf (n.substitute arguments) = firstFault? arguments n.occurrences := by
  match n with
  | .leaf l => exact faultOf_leaf arguments l
  | .map entries =>
    rw [Node.substitute, Node.occurrences, faultOf_bind_pure]
    exact faultOf_substituteEntries entries
  | .list items =>
    rw [Node.substitute, Node.occurrences, faultOf_bind_pure]
    exact faultOf_substituteAll items
  | .scalar _ => rfl

lemma faultOf_substituteAll (items : List Node) :
    faultOf (Node.substituteAll arguments items) =
      firstFault? arguments (Node.occurrencesInAll items) := by
  match items with
  | [] => rfl
  | n :: ns =>
    rw [Node.substituteAll, Node.occurrencesInAll, faultOf_pair, faultOf_substitute n,
      faultOf_substituteAll ns, firstFault_append]

lemma faultOf_substituteEntries (entries : List (Value × Node)) :
    faultOf (Node.substituteEntries arguments entries) =
      firstFault? arguments (Node.occurrencesInEntries entries) := by
  match entries with
  | [] => rfl
  | (_, n) :: es =>
    rw [Node.substituteEntries, Node.occurrencesInEntries, faultOf_pair, faultOf_substitute n,
      faultOf_substituteEntries es, firstFault_append]

end

lemma faultOf_resolve (t : Template) :
    faultOf (t.resolve arguments) = firstFault? arguments t.occurrences := by
  simp only [Template.resolve, Template.occurrences, firstFault_append, ← faultOf_leaf,
    ← faultOf_substituteEntries, ← faultOf_substitute, Option.or_assoc]
  apply faultOf_bind
  intro url
  apply faultOf_bind
  intro headers
  exact faultOf_pair ..

lemma resolve_eq_ok {t : Template} {parts : Parts} (h : t.resolve arguments = .ok parts) :
    ∃ url headers query body,
      t.url.substitute arguments = .ok url ∧
      Node.substituteEntries arguments t.headers = .ok headers ∧
      Node.substituteEntries arguments t.query = .ok query ∧
      t.body.substitute arguments = .ok body ∧
      parts = {
        method := some t.method, url := url.render
        headers, query, body, attachments := t.attachments } := by
  obtain ⟨url, hu, h⟩ := bind_eq_ok.mp h
  obtain ⟨headers, hh, h⟩ := bind_eq_ok.mp h
  obtain ⟨query, hq, h⟩ := bind_eq_ok.mp h
  obtain ⟨body, hb, h⟩ := bind_eq_ok.mp h
  exact ⟨url, headers, query, body, hu, hh, hq, hb, (Except.ok.inj h).symm⟩

end Order

def IsAssemblyFault : Fault → Prop
  | .url _ | .unwritable _ | .template .bodyNotMapping | .template .bodyNotFinite
  | .template .bodyOversized => True
  | _ => False

section Assembly

variable {f : Fault}

lemma ofWriteFault_assembly (cause : Json.WriteFault) : IsAssemblyFault (.ofWriteFault cause) := by
  cases cause with
  | misuse cause => cases cause <;> trivial
  | _ => trivial

lemma mapError_write_fault {α : Type} {x : Except Json.WriteFault α}
    (h : x.mapError Fault.ofWriteFault = .error f) : IsAssemblyFault f := by
  obtain ⟨cause, -, rfl⟩ := mapError_eq_error.mp h
  exact ofWriteFault_assembly cause

lemma requestUrl_fault [Idna] {url : String} {query : Table}
    (h : Parts.requestUrl url query = .error f) : IsAssemblyFault f := by
  rcases bind_eq_error.mp h with h | ⟨pairs, -, h⟩
  · exact mapError_write_fault h
  · split at h
    · cases h
    · obtain ⟨cause, -, rfl⟩ := mapError_eq_error.mp h
      trivial

lemma fields_fault {entries : List (Value × Value)} (h : Parts.fields entries = .error f) :
    IsAssemblyFault f := by
  induction entries with
  | nil => cases h
  | cons e es ih =>
    rcases bind_eq_error.mp h with h | ⟨text, -, h⟩
    · exact mapError_write_fault h
    · rcases bind_eq_error.mp h with h | ⟨others, -, h⟩
      · exact ih h
      · cases h

lemma form_fault {body : Value} (h : Parts.form body = .error f) : IsAssemblyFault f := by
  simp only [Parts.form] at h
  split at h
  · cases h
  · exact fields_fault (map_eq_error.mp h)
  · cases h
    trivial

lemma assemble_fault [Idna] {parts : Parts} {s : Settings} (h : parts.assemble s = .error f) :
    IsAssemblyFault f := by
  rcases bind_eq_error.mp h with h | ⟨url, -, h⟩
  · exact requestUrl_fault h
  dsimp only at h
  split at h
  · rcases bind_eq_error.mp h with h | ⟨form, -, h⟩
    · exact form_fault h
    · cases h
  · split at h
    · cases h
    · rcases bind_eq_error.mp h with h | ⟨text, -, h⟩
      · exact mapError_write_fault h
      · cases h

end Assembly

lemma build_of_resolve [Idna] {t : Template} {arguments : Arguments} {parts : Parts}
    (h : t.resolve (given arguments) = .ok parts) :
    t.build arguments = parts.assemble t.settings := by
  simp only [Template.build, h]
  rfl

lemma build_of_fault [Idna] {t : Template} {arguments : Arguments} {f : VariableFault}
    (h : t.resolve (given arguments) = .error f) :
    t.build arguments = .error (.placeholder f) := by
  simp only [Template.build, h]
  rfl

theorem build_fails_with_first_fault [Idna] (t : Template) (arguments : Arguments) :
    ((∀ v ∈ t.occurrences, ∃ x, v.resolve (given arguments) = .ok x) ∧
      ∃ url headers query body,
        t.url.substitute (given arguments) = .ok url ∧
        Node.substituteEntries (given arguments) t.headers = .ok headers ∧
        Node.substituteEntries (given arguments) t.query = .ok query ∧
        t.body.substitute (given arguments) = .ok body ∧
        t.build arguments = Parts.assemble {
          method := some t.method, url := url.render
          headers, query, body, attachments := t.attachments } t.settings ∧
        ∀ f, t.build arguments = .error f → IsAssemblyFault f) ∨
    (∃ before v after f, t.occurrences = before ++ v :: after ∧
      (∀ w ∈ before, ∃ x, w.resolve (given arguments) = .ok x) ∧
      v.resolve (given arguments) = .error f ∧
      t.build arguments = .error (.placeholder f) ∧ ¬ IsAssemblyFault (.placeholder f)) := by
  have hf := faultOf_resolve (given arguments) t
  cases h : t.resolve (given arguments) with
  | ok parts =>
    rw [h, faultOf_ok] at hf
    obtain ⟨url, headers, query, body, hu, hh, hq, hb, rfl⟩ := resolve_eq_ok _ h
    refine Or.inl ⟨(firstFault_eq_none _).mp hf.symm, url, headers, query, body, hu, hh, hq, hb,
      build_of_resolve h, ?_⟩
    intro f hbuild
    rw [build_of_resolve h] at hbuild
    exact assemble_fault hbuild
  | error f =>
    rw [h, faultOf_error] at hf
    obtain ⟨before, v, after, hs, hbefore, hv⟩ := firstFault_eq_some _ hf.symm
    exact Or.inr ⟨before, v, after, f, hs, hbefore, hv, build_of_fault h, id⟩

end HttpTemplate.Resolution
