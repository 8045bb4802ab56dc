import HttpTemplate.Descriptor
import HttpTemplate.Proofs.Construction
import HttpTemplate.Proofs.Json.Reading
import HttpTemplate.Proofs.Substitution

/-! What can go wrong with a template from a descriptor. Descriptor and arguments are documents, so
that JSON can represent what is sent up to numbers that it has no form for. What is left are faults of
the template, of its URL, and of attachments that are no sequence. -/

namespace HttpTemplate.Descriptors

open Faults Json Parameters Resolution Substitution Template

/-- What goes wrong before a request is sent, when all data come from documents. -/
inductive Preparatory : Fault → Prop
  | file (cause : FileFault) : Preparatory (.file cause)
  | undecodable (cause : Text.Utf8.Defect) : Preparatory (.undecodable cause)
  | unreadable (cause : ReadFault) : Preparatory (.unreadable cause)
  | template (cause : TemplateFault) : Preparatory (.template cause)
  | notIterable (typeName : String) : Preparatory (.misuse (.notIterable typeName))
  | missing (name : String) : Preparatory (.placeholder (.missing name))
  | coercion {cause : VariableFault} : IsCoercionFault cause → Preparatory (.placeholder cause)
  | url (cause : Url.Fault) : Preparatory (.url cause)

section Loading

variable {read : String → Except FileFault (List UInt8)} {path : String}

lemma load_fault {f : Fault} (h : Descriptor.load read path = .error f) : Preparatory f := by
  rw [Descriptor.load] at h
  split at h
  · rw [Descriptor.ofBytes] at h
    split at h
    · rw [Descriptor.ofText.eq_def] at h
      split at h
      · cases h
      · cases h
        exact .template _
      · cases h
        exact .unreadable _
    · cases h
      exact .undecodable _
  · cases h
    exact .file _

lemma members_load {descriptor : Table} (h : Descriptor.load read path = .ok descriptor) :
    Members descriptor := by
  rw [Descriptor.load] at h
  split at h
  · rw [Descriptor.ofBytes] at h
    split at h
    · rw [Descriptor.ofText.eq_def] at h
      split at h
      · next hread =>
        cases h
        exact members_of_document (document_read hread)
      · cases h
      · cases h
    · cases h
  · cases h

end Loading

structure Documented (t : Template) : Prop where
  query : ∃ es, Members es ∧ t.query = Node.compileEntries es
  body : ∃ v, Document v ∧ t.body = Node.compile v

section Construction

variable {s : Settings} {descriptor : Table} {t u : Template} {part : Value} {f : Fault}

lemma start_fault (h : start s descriptor = .error f) : Preparatory f := by
  rw [start.eq_def] at h
  split at h
  · split at h
    · cases h
      exact .template _
    · cases h
  · cases h
    exact .template _

lemma documented_start (h : start s descriptor = .ok t) : Documented t := by
  rw [start.eq_def] at h
  split at h
  · split at h
    · cases h
    · cases h
      exact ⟨⟨[], members_nil, rfl⟩, ⟨.null, .null, rfl⟩⟩
  · cases h

lemma setPart_fault {set : Template → Value → Except Fault Template}
    (hset : ∀ f, set t part = .error f → Preparatory f) (h : t.setPart part set = .error f) :
    Preparatory f := by
  rw [setPart] at h
  split at h
  · cases h
  · exact hset f h

lemma setHeaders_fault (h : t.setHeaders part = .error f) : Preparatory f := by
  rw [setHeaders.eq_def] at h
  split at h <;> cases h
  exact .template _

lemma setQuery_fault (h : t.setQuery part = .error f) : Preparatory f := by
  rw [setQuery.eq_def] at h
  split at h <;> cases h
  exact .template _

lemma attachmentOf_fault {v : Value} (h : attachmentOf v = .error f) : Preparatory f := by
  rw [attachmentOf.eq_def] at h
  split at h
  · cases h
  · dsimp only at h
    split at h <;> cases h
    exact .template _
  · cases h
    exact .template _

lemma attachments_fault {vs : List Value} (h : vs.mapM attachmentOf = .error f) :
    Preparatory f := by
  induction vs with
  | nil => cases h
  | cons v vs ih =>
    rw [List.mapM_cons] at h
    rcases bind_eq_error.mp h with h | ⟨a, -, h⟩
    · exact attachmentOf_fault h
    · rcases bind_eq_error.mp h with h | ⟨rest, -, h⟩
      · exact ih h
      · cases h

lemma attachmentsOf_fault (h : attachmentsOf part = .error f) : Preparatory f := by
  rw [attachmentsOf] at h
  split at h
  · cases h
  · rcases bind_eq_error.mp h with h | ⟨vs, -, h⟩
    · obtain ⟨cause, hcause, rfl⟩ := mapError_eq_error.mp h
      rw [Value.elements] at hcause
      split at hcause
      · cases hcause
      · cases hcause
        exact .notIterable _
    · exact attachments_fault h

lemma fill_fault (h : t.fill descriptor = .error f) : Preparatory f := by
  rcases bind_eq_error.mp h with h | ⟨t, -, h⟩
  · exact setPart_fault (fun _ => setHeaders_fault) h
  rcases bind_eq_error.mp h with h | ⟨t, -, h⟩
  · exact setPart_fault (fun _ => setQuery_fault) h
  rcases bind_eq_error.mp h with h | ⟨t, -, h⟩
  · exact setPart_fault (fun _ hset => by cases hset) h
  rcases bind_eq_error.mp h with h | ⟨attachments, -, h⟩
  · exact attachmentsOf_fault h
  · cases h

lemma documented_fill (hd : Members descriptor) (ht : Documented t)
    (h : t.fill descriptor = .ok u) : Documented u := by
  refine Construction.fill_keeps (fun t es _ ht => ⟨ht.query, ht.body⟩) (fun t es hes ht => ?_)
    (fun t ht => ⟨ht.query, _, document_firstOf hd _, rfl⟩) (fun t _ ht => ⟨ht.query, ht.body⟩) ht h
  exact ⟨⟨es, members_of_document (hes ▸ document_firstOf hd _), rfl⟩, ht.body⟩

end Construction

section Building

variable {t : Template} {es : Table} {f : Fault}

lemma resolve_fault {v : Variable} {cause : VariableFault}
    (h : v.resolve (.map es) = .error cause) : Preparatory (.placeholder cause) := by
  rcases resolve_cases v es with ⟨x, -, hresolve⟩ | ⟨text, hresolve⟩ | hresolve | hresolve <;>
    rw [hresolve] at h
  · exact .coercion (coerce_fault h)
  · exact .coercion (coerce_fault h)
  · cases h
  · cases h
    exact .missing _

lemma ofWriteFault_number {cause : WriteFault} (h : OfNumber cause) :
    Preparatory (.ofWriteFault cause) := by
  rcases h with rfl | rfl
  · exact .template _
  · exact .template _

lemma requestUrl_preparatory [Idna] {url : String} {query : Table} (hquery : Members query)
    (h : Parts.requestUrl url query = .error f) : Preparatory f := by
  rcases bind_eq_error.mp h with h | ⟨pairs, -, h⟩
  · obtain ⟨cause, hcause, rfl⟩ := mapError_eq_error.mp h
    exact ofWriteFault_number (flatten_fault hquery hcause)
  · split at h
    · cases h
    · obtain ⟨cause, -, rfl⟩ := mapError_eq_error.mp h
      exact .url cause

lemma fields_preparatory {entries : List (Value × Value)} (hv : ∀ e ∈ entries, Document e.2)
    (h : Parts.fields entries = .error f) : Preparatory f := by
  induction entries with
  | nil => cases h
  | cons e entries ih =>
    rcases bind_eq_error.mp h with h | ⟨text, -, h⟩
    · obtain ⟨cause, hcause, rfl⟩ := mapError_eq_error.mp h
      exact ofWriteFault_number (fieldText_fault (hv e List.mem_cons_self) hcause)
    · rcases bind_eq_error.mp h with h | ⟨others, -, h⟩
      · exact ih (fun d hd => hv d (List.mem_cons_of_mem e hd)) h
      · cases h

lemma form_preparatory {body : Value} (hbody : Document body)
    (h : Parts.form body = .error f) : Preparatory f := by
  rw [Parts.form.eq_def] at h
  split at h
  · cases h
  · have hes := members_of_document hbody
    refine fields_preparatory (fun e he => ?_) (map_eq_error.mp h)
    exact (hes e (List.mem_filter.mp he).1).2
  · cases h
    exact .template _

lemma assemble_preparatory [Idna] {parts : Parts} {s : Settings} (hquery : Members parts.query)
    (hbody : Document parts.body) (h : parts.assemble s = .error f) : Preparatory f := by
  rcases bind_eq_error.mp h with h | ⟨url, -, h⟩
  · exact requestUrl_preparatory hquery h
  dsimp only at h
  split at h
  · rcases bind_eq_error.mp h with h | ⟨form, -, h⟩
    · exact form_preparatory hbody h
    · cases h
  · split at h
    · cases h
    · rcases bind_eq_error.mp h with h | ⟨text, -, h⟩
      · obtain ⟨cause, hcause, rfl⟩ := mapError_eq_error.mp h
        exact ofWriteFault_number (write_ofNumber hbody hcause)
      · cases h

lemma build_preparatory [Idna] (ht : Documented t) (hes : Members es)
    (h : t.build (.map es) = .error f) : Preparatory f := by
  cases hresolve : t.resolve (given (.map es)) with
  | error cause =>
    rw [build_of_fault hresolve] at h
    cases h
    obtain ⟨v, -, hv⟩ := resolve_of_build_fault (build_of_fault hresolve)
    exact resolve_fault hv
  | ok parts =>
    rw [build_of_resolve hresolve] at h
    obtain ⟨url, headers, query, body, -, -, hquery, hbody, rfl⟩ := resolve_eq_ok _ hresolve
    obtain ⟨ds, hds, hq⟩ := ht.query
    obtain ⟨v, hv, hb⟩ := ht.body
    rw [hq] at hquery
    rw [hb] at hbody
    have hquery : Members query := members_substitute hes hds hquery
    have hbody : Document body := document_substitute hes hv hbody
    exact assemble_preparatory hquery hbody h

end Building

end HttpTemplate.Descriptors
