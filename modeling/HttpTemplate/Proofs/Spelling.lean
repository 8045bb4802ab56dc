import HttpTemplate.Proofs.Construction
import HttpTemplate.Proofs.Placeholder.Printing

/-! The variables of the templates that there are. A template gets its variables from texts alone,
and every step that makes it reads them when it is set, so that each can be written in a text. -/

namespace HttpTemplate.Spelling

open Construction Faults Placeholder Template

inductive Made : Template → Prop
  | make {settings : Settings} {method url : Value} {t : Template} :
      Template.make settings method url = .ok t → Made t
  | headers {t u : Template} {part : Value} : Made t → t.setHeaders part = .ok u → Made u
  | query {t u : Template} {part : Value} : Made t → t.setQuery part = .ok u → Made u
  | body {t : Template} (part : Value) : Made t → Made (t.setBody part)
  | attach {t : Template} (a : Attachment) : Made t → Made (t.attach a)

structure Spelled (t : Template) : Prop where
  url : ∀ v ∈ t.url.occurrences, Spellable v
  headers : ∀ v ∈ Node.occurrencesInEntries t.headers, Spellable v
  query : ∀ v ∈ Node.occurrencesInEntries t.query, Spellable v
  body : ∀ v ∈ t.body.occurrences, Spellable v

section Texts

lemma spellable_ofText (text : String) : ∀ v ∈ (Leaf.ofText text).occurrences, Spellable v := by
  intro v hv
  obtain ⟨t, ht, htv⟩ := List.mem_filterMap.mp hv
  cases t with
  | literal _ => cases htv
  | placeholder w =>
    cases htv
    exact (printable_parse text).spellable v ht

mutual

lemma spellable_compile (x : Value) : ∀ v ∈ (Node.compile x).occurrences, Spellable v := by
  match x with
  | .str text => exact spellable_ofText text
  | .map entries => exact spellable_compileEntries entries
  | .list items | .tuple items => exact spellable_compileAll items
  | .null | .bool _ | .int _ | .float _ | .bytes _ | .record _ _ | .pairing _ | .attachment _ =>
    exact List.forall_mem_nil _

lemma spellable_compileAll (items : List Value) :
    ∀ v ∈ Node.occurrencesInAll (Node.compileAll items), Spellable v := by
  match items with
  | [] => exact List.forall_mem_nil _
  | x :: items =>
    exact List.forall_mem_append.mpr ⟨spellable_compile x, spellable_compileAll items⟩

lemma spellable_compileEntries (entries : List (Value × Value)) :
    ∀ v ∈ Node.occurrencesInEntries (Node.compileEntries entries), Spellable v := by
  match entries with
  | [] => exact List.forall_mem_nil _
  | (_, x) :: entries =>
    exact List.forall_mem_append.mpr ⟨spellable_compile x, spellable_compileEntries entries⟩

end

end Texts

section Steps

variable {t u : Template}

lemma spelled_headers (ht : Spelled t) (entries : Table) :
    Spelled { t with headers := Node.compileEntries entries } :=
  { ht with headers := spellable_compileEntries entries }

lemma spelled_query (ht : Spelled t) (entries : Table) :
    Spelled { t with query := Node.compileEntries entries } :=
  { ht with query := spellable_compileEntries entries }

lemma spelled_body (ht : Spelled t) (part : Value) : Spelled (t.setBody part) :=
  { ht with body := spellable_compile part }

lemma spelled_start {settings : Settings} {descriptor : Table}
    (h : start settings descriptor = .ok t) : Spelled t := by
  rw [start] at h
  split at h
  · next url _ =>
    split at h
    · cases h
    · cases h
      exact ⟨spellable_ofText url, List.forall_mem_nil _, List.forall_mem_nil _,
        List.forall_mem_nil _⟩
  · cases h

lemma spelled_fill {descriptor : Table} (ht : Spelled t) (h : t.fill descriptor = .ok u) :
    Spelled u :=
  fill_keeps (fun _ es _ ht => spelled_headers ht es) (fun _ es _ ht => spelled_query ht es)
    (fun _ ht => spelled_body ht _) (fun _ _ ht => { ht with }) ht h

lemma spelled_make {settings : Settings} {method url : Value}
    (h : Template.make settings method url = .ok t) : Spelled t := by
  rw [Template.make.eq_def] at h
  split at h
  all_goals
    obtain ⟨u, hstart, hfill⟩ := bind_eq_ok.mp h
    exact spelled_fill (spelled_start hstart) hfill

lemma Made.spelled (h : Made t) : Spelled t := by
  induction h with
  | make h => exact spelled_make h
  | headers _ h ih => exact setHeaders_keeps (fun es _ => spelled_headers ih es) h
  | query _ h ih => exact setQuery_keeps (fun es _ => spelled_query ih es) h
  | body part _ ih => exact spelled_body ih part
  | attach a _ ih => exact { ih with }

lemma Made.spellable (h : Made t) {v : Variable} (hv : v ∈ t.occurrences) : Spellable v := by
  have hspelled := h.spelled
  simp only [Template.occurrences, List.mem_append] at hv
  rcases hv with ((hv | hv) | hv) | hv
  · exact hspelled.url v hv
  · exact hspelled.headers v hv
  · exact hspelled.query v hv
  · exact hspelled.body v hv

end Steps

end HttpTemplate.Spelling
