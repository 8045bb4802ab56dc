import HttpTemplate.Proofs.Json.Documents
import HttpTemplate.Proofs.Parameters

/-! Documents put for the variables of documents give documents. In a query, a form or a body these
have texts, unless one of their numbers is not finite. -/

namespace HttpTemplate.Substitution

open Faults Json Parameters Template

section Tables

variable {es : Table} {v : Value}

lemma members_nil : Members [] := by simp [Members]

lemma mem_of_get? {name : String} (h : es.get? (.str name) = some v) : (.str name, v) ∈ es := by
  induction es with
  | nil => cases h
  | cons e es ih =>
    obtain ⟨k, w⟩ := e
    rw [Entries.get?] at h
    split at h
    · next hk =>
      cases h
      rw [Value.beq_str_iff.mp hk]
      exact List.mem_cons_self
    · exact List.mem_cons_of_mem _ (ih h)

lemma document_get? (hes : Members es) {name : String} (h : es.get? (.str name) = some v) :
    Document v :=
  (hes _ (mem_of_get? h)).2

lemma document_firstOf (hes : Members es) (names : List String) :
    Document (firstOf es names) := by
  rw [firstOf]
  cases h : names.findSome? fun name => es.get? (.str name) with
  | none => exact .null
  | some v =>
    obtain ⟨name, -, hv⟩ := List.exists_of_findSome?_eq_some h
    exact document_get? hes hv

lemma members_of_document (h : Document (.map es)) : Members es := by
  cases h with
  | map hk hv => exact fun e he => ⟨hk e he, hv e he⟩

end Tables

section Substitution

variable {es : Table} {w : Value}

lemma document_finite {v : Variable} {value : Value} {x : Binary64}
    (h : v.finite value x = .ok w) : Document w := by
  rw [Variable.finite] at h
  split at h
  · cases h
    exact .float x
  · cases h

lemma document_coerceText {v : Variable} {value : Value} {text : List Char}
    (h : v.coerceText value text = .ok w) : Document w := by
  rw [Variable.coerceText] at h
  split at h
  · split at h
    · cases h
      exact .int _
    · cases h
    · cases h
  · split at h
    · exact document_finite h
    · cases h

lemma document_coerceNumber {v : Variable} {value : Value}
    (h : v.coerceNumber value = .ok w) : Document w := by
  rw [Variable.coerceNumber.eq_def] at h
  split at h
  · cases h
  · cases h
    exact .int _
  · exact document_finite h
  · rw [Value.written_bind] at h
    split at h
    · exact document_coerceText h
    · cases h

lemma document_coerceBoolean {value : Value} (h : Variable.coerceBoolean value = .ok w) :
    Document w := by
  rw [Variable.coerceBoolean.eq_def] at h
  split at h
  · cases h
    exact .bool _
  · rw [Value.written_bind] at h
    split at h
    · cases h
      exact .bool _
    · cases h

lemma document_coerce {v : Variable} {value : Value} (hvalue : Document value)
    (h : v.coerce value = .ok w) : Document w := by
  rw [Variable.coerce] at h
  split at h
  · cases h
    exact .null
  · split at h
    · exact document_coerceNumber h
    · exact document_coerceBoolean h
    · cases h
      exact hvalue

lemma document_resolve (hes : Members es) {v : Variable} (h : v.resolve (.map es) = .ok w) :
    Document w := by
  rcases resolve_cases v es with ⟨x, hx, hresolve⟩ | ⟨text, hresolve⟩ | hresolve | hresolve <;>
    rw [hresolve] at h
  · exact document_coerce (document_get? hes hx) h
  · exact document_coerce (.str text) h
  · cases h
    exact .str ""
  · cases h

lemma document_leaf (hes : Members es) {l : Leaf} (h : l.substitute (.map es) = .ok w) :
    Document w := by
  rw [Leaf.substitute] at h
  split at h
  · exact document_resolve hes h
  · obtain ⟨text, -, rfl⟩ := map_eq_ok.mp h
    exact .str text

lemma mem_substituteAll {arguments : Arguments} {vs ws : List Value}
    (h : Node.substituteAll arguments (Node.compileAll vs) = .ok ws) (hw : w ∈ ws) :
    ∃ v ∈ vs, (Node.compile v).substitute arguments = .ok w := by
  induction vs generalizing ws with
  | nil =>
    cases h
    cases hw
  | cons v vs ih =>
    rw [Node.compileAll, Node.substituteAll] at h
    obtain ⟨first, hfirst, h⟩ := bind_eq_ok.mp h
    obtain ⟨rest, hrest, h⟩ := bind_eq_ok.mp h
    cases h
    rcases List.mem_cons.mp hw with rfl | hw
    · exact ⟨v, List.mem_cons_self, hfirst⟩
    · obtain ⟨u, hu, hsub⟩ := ih hrest hw
      exact ⟨u, List.mem_cons_of_mem v hu, hsub⟩

lemma mem_substituteEntries {arguments : Arguments} {ds ws : List (Value × Value)}
    (h : Node.substituteEntries arguments (Node.compileEntries ds) = .ok ws) {e : Value × Value}
    (he : e ∈ ws) : ∃ d ∈ ds, e.1 = d.1 ∧ (Node.compile d.2).substitute arguments = .ok e.2 := by
  induction ds generalizing ws with
  | nil =>
    cases h
    cases he
  | cons d ds ih =>
    rw [Node.compileEntries, Node.substituteEntries] at h
    obtain ⟨first, hfirst, h⟩ := bind_eq_ok.mp h
    obtain ⟨rest, hrest, h⟩ := bind_eq_ok.mp h
    cases h
    rcases List.mem_cons.mp he with rfl | he
    · exact ⟨d, List.mem_cons_self, rfl, hfirst⟩
    · obtain ⟨c, hc, hsub⟩ := ih hrest he
      exact ⟨c, List.mem_cons_of_mem d hc, hsub⟩

lemma document_substitute (hes : Members es) {v : Value} (hv : Document v)
    (h : (Node.compile v).substitute (.map es) = .ok w) : Document w := by
  induction hv generalizing w with
  | str s => exact document_leaf hes (by simpa only [Node.compile, Node.substitute] using h)
  | list _ ih =>
    rw [Node.compile, Node.substitute] at h
    obtain ⟨ws, hws, h⟩ := bind_eq_ok.mp h
    cases h
    apply Document.list
    intro w hw
    obtain ⟨v, hv, hsub⟩ := mem_substituteAll hws hw
    exact ih v hv hsub
  | map hk _ ih =>
    rw [Node.compile, Node.substitute] at h
    obtain ⟨ws, hws, h⟩ := bind_eq_ok.mp h
    cases h
    apply Members.document
    intro e he
    obtain ⟨d, hd, hkey, hsub⟩ := mem_substituteEntries hws he
    exact ⟨hkey ▸ hk d hd, ih d hd hsub⟩
  | null => cases h; exact .null
  | bool b => cases h; exact .bool b
  | int n => cases h; exact .int n
  | float x => cases h; exact .float x

lemma members_substitute (hes : Members es) {ds ws : Table} (hds : Members ds)
    (h : Node.substituteEntries (.map es) (Node.compileEntries ds) = .ok ws) : Members ws := by
  intro e he
  obtain ⟨d, hd, hkey, hsub⟩ := mem_substituteEntries h he
  exact ⟨hkey ▸ (hds d hd).1, document_substitute hes (hds d hd).2 hsub⟩

end Substitution

section Writing

variable {fault : WriteFault}

lemma fieldText_fault {v : Value} (hv : Document v) (h : Query.fieldText v = .error fault) :
    OfNumber fault := by
  rw [Query.fieldText.eq_def] at h
  split at h
  · exact write_ofNumber hv h
  · exact write_ofNumber hv h
  · exact write_ofNumber hv h
  · cases h

lemma flattenItems_fault {name : String} {vs : List Value} (hvs : ∀ v ∈ vs, Document v)
    (h : Query.flattenItems name vs = .error fault) : OfNumber fault := by
  induction vs with
  | nil => cases h
  | cons v vs ih =>
    have ih := ih fun w hw => hvs w (List.mem_cons_of_mem v hw)
    rw [Query.flattenItems] at h
    split at h
    · exact ih h
    · rcases bind_eq_error.mp h with h | ⟨text, -, h⟩
      · exact fieldText_fault (hvs v List.mem_cons_self) h
      · rcases bind_eq_error.mp h with h | ⟨rest, -, h⟩
        · exact ih h
        · cases h

lemma flattenEntries_fault {outer : String} {es : Table}
    (hes : ∀ e ∈ es, ∀ name, Query.flattenValue name e.2 = .error fault → OfNumber fault)
    (h : Query.flattenEntries outer es = .error fault) : OfNumber fault := by
  induction es with
  | nil => cases h
  | cons e es ih =>
    rw [Query.flattenEntries] at h
    rcases bind_eq_error.mp h with h | ⟨first, -, h⟩
    · exact hes e List.mem_cons_self _ h
    · rcases bind_eq_error.mp h with h | ⟨others, -, h⟩
      · exact ih (fun d hd => hes d (List.mem_cons_of_mem e hd)) h
      · cases h

lemma flattenValue_fault {name : String} {v : Value} (hv : Document v)
    (h : Query.flattenValue name v = .error fault) : OfNumber fault := by
  induction hv generalizing name with
  | list hvs _ => exact flattenItems_fault hvs (by simpa only [Query.flattenValue] using h)
  | map _ _ ih =>
    rw [Query.flattenValue] at h
    exact flattenEntries_fault (fun e he name => ih e he) h
  | _ => simp only [Query.flattenValue] at h; cases h

lemma flatten_fault {query : Table} (hquery : Members query)
    (h : Query.flatten query = .error fault) : OfNumber fault :=
  flattenEntries_fault (fun e he _ => flattenValue_fault (hquery e he).2) h

end Writing

end HttpTemplate.Substitution
