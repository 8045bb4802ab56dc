import HttpTemplate.Proofs.Faults
import HttpTemplate.Template
import Mathlib.Data.List.Forall2
import Mathlib.Data.List.Perm.Basic

/-! Two ways to one template: a descriptor that has everything, and a method and a URL with one call
for each of the other parts. In whatever order the calls come, they leave the template that the
descriptor gives. -/

namespace HttpTemplate.Construction

open Faults Template

structure Outline where
  method : String
  url : String
  headers : Table
  query : Table
  body : Value
  attachments : List Attachment

inductive Call where
  | headers (entries : Table)
  | query (entries : Table)
  | body (v : Value)
  | attach (a : Attachment)

namespace Call

def apply (t : Template) : Call → Except Fault Template
  | headers entries => t.setHeaders (.map entries)
  | query entries => t.setQuery (.map entries)
  | body v => .ok (t.setBody v)
  | attach a => .ok (t.attach a)

def set (t : Template) : Call → Template
  | headers entries => { t with headers := Node.compileEntries entries }
  | query entries => { t with query := Node.compileEntries entries }
  | body v => t.setBody v
  | attach a => t.attach a

lemma apply_eq (t : Template) (c : Call) : c.apply t = .ok (c.set t) := by
  cases c <;> rfl

def headers? : Call → Option (List (Value × Node))
  | headers entries => some (Node.compileEntries entries)
  | _ => none

def query? : Call → Option (List (Value × Node))
  | query entries => some (Node.compileEntries entries)
  | _ => none

def body? : Call → Option Node
  | body v => some (Node.compile v)
  | _ => none

def attachment? : Call → Option Attachment
  | attach a => some a
  | _ => none

end Call

structure DescribesFile (entry : Value) (a : Attachment) : Prop where
  entries : ∃ es, entry = .map es ∧ Entries.get? (.str "field") es = some (.str a.field) ∧
    Entries.get? (.str "filePath") es = some (.str a.path)
  field_ne_empty : a.field ≠ ""
  path_ne_empty : a.path ≠ ""

structure Describes (d : Table) (o : Outline) : Prop where
  method : Entries.get? (.str "method") d = some (.str o.method)
  url : Entries.get? (.str "url") d = some (.str o.url)
  url_ne_empty : o.url ≠ ""
  headers : Entries.get? (.str "headers") d = some (.map o.headers)
  query : Entries.get? (.str "query") d = some (.map o.query)
  body : (Entries.get? (.str "body") d).getD .null = o.body
  attachments : ∃ entries, Entries.get? (.str "formData") d = some (.list entries) ∧
    List.Forall₂ DescribesFile entries o.attachments

/-- Each part is set once and each file attached once, the files in their order. -/
structure Calls (calls : List Call) (o : Outline) : Prop where
  once : calls.Perm
    (.headers o.headers :: .query o.query :: .body o.body :: o.attachments.map .attach)
  inOrder : calls.filterMap Call.attachment? = o.attachments

namespace Outline

def bare (o : Outline) (settings : Settings) (fullResponse : Bool) : Template where
  method := methodOf (.str o.method)
  url := .ofText o.url
  fullResponse := fullResponse
  settings := settings

def template (o : Outline) (settings : Settings) (fullResponse : Bool) : Template :=
  { o.bare settings fullResponse with
    headers := Node.compileEntries o.headers
    query := Node.compileEntries o.query
    body := Node.compile o.body
    attachments := o.attachments }

end Outline

section Filling

variable {p : Template → Prop} {t u : Template} {part : Value}

lemma setPart_keeps {set : Template → Value → Except Fault Template}
    (hset : ∀ u, set t part = .ok u → p u) (ht : p t) (h : t.setPart part set = .ok u) : p u := by
  rw [setPart] at h
  split at h
  · cases h
    exact ht
  · exact hset u h

lemma setHeaders_keeps (hset : ∀ es, part = .map es → p { t with headers := Node.compileEntries es })
    (h : t.setHeaders part = .ok u) : p u := by
  cases part with
  | map es =>
    cases h
    exact hset es rfl
  | _ => cases h

lemma setQuery_keeps (hset : ∀ es, part = .map es → p { t with query := Node.compileEntries es })
    (h : t.setQuery part = .ok u) : p u := by
  cases part with
  | map es =>
    cases h
    exact hset es rfl
  | _ => cases h

lemma fill_keeps {d : Table}
    (hheaders : ∀ t es, firstOf d ["headers"] = .map es → p t →
      p { t with headers := Node.compileEntries es })
    (hquery : ∀ t es, firstOf d ["query"] = .map es → p t →
      p { t with query := Node.compileEntries es })
    (hbody : ∀ t, p t → p (t.setBody (firstOf d ["body"])))
    (hattachments : ∀ t attachments, p t → p { t with attachments })
    (ht : p t) (h : t.fill d = .ok u) : p u := by
  obtain ⟨a, ha, h⟩ := bind_eq_ok.mp h
  obtain ⟨b, hb, h⟩ := bind_eq_ok.mp h
  obtain ⟨c, hc, h⟩ := bind_eq_ok.mp h
  obtain ⟨attachments, -, h⟩ := bind_eq_ok.mp h
  have ha : p a :=
    setPart_keeps (fun _ => setHeaders_keeps fun es hes => hheaders t es hes ht) ht ha
  have hb : p b := setPart_keeps (fun _ => setQuery_keeps fun es hes => hquery a es hes ha) ha hb
  have hc : p c := setPart_keeps (fun _ hset => by cases hset; exact hbody b hb) hb hc
  cases h
  exact hattachments c attachments hc

end Filling

section Descriptor

variable {d : Table} {o : Outline} {name : String} {v : Value}

lemma firstOf_of_get? (h : Entries.get? (.str name) d = some v) (names : List String) :
    firstOf d (name :: names) = v := by
  simp only [firstOf, List.findSome?_cons, h, Option.getD_some]

lemma firstOf_singleton (d : Table) (name : String) :
    firstOf d [name] = (Entries.get? (.str name) d).getD .null := by
  cases h : Entries.get? (.str name) d with
  | some v => exact firstOf_of_get? h []
  | none => simp only [firstOf, List.findSome?_cons, h, List.findSome?_nil, Option.getD_none]

lemma attachmentOf_of_describes {entry : Value} {a : Attachment} (h : DescribesFile entry a) :
    attachmentOf entry = .ok a := by
  obtain ⟨⟨es, rfl, hfield, hpath⟩, hfield_ne, hpath_ne⟩ := h
  simp [attachmentOf, firstOf_of_get? hfield, firstOf_of_get? hpath, Value.truthy, Value.text,
    hfield_ne, hpath_ne]

lemma attachmentsOf_list (entries : List Value) :
    attachmentsOf (.list entries) = entries.mapM attachmentOf := by
  cases entries <;> rfl

lemma attachmentsOf_of_describes {entries : List Value} {attachments : List Attachment}
    (h : List.Forall₂ DescribesFile entries attachments) :
    attachmentsOf (.list entries) = .ok attachments := by
  rw [attachmentsOf_list]
  induction h with
  | nil => rfl
  | cons hentry _ ih =>
    rw [List.mapM_cons, attachmentOf_of_describes hentry, ih]
    rfl

lemma start_of_describes (h : Describes d o) (settings : Settings) :
    start settings d =
      .ok (o.bare settings (firstOf d ["fullResponse", "full_response"]).truthy) := by
  simp only [start, firstOf_of_get? h.url, firstOf_of_get? h.method, h.url_ne_empty, if_false,
    Outline.bare]

lemma setPart_body {t : Template} (ht : t.body = .scalar .null) (v : Value) :
    t.setPart v (fun t v => .ok (t.setBody v)) = .ok (t.setBody v) := by
  rw [setPart]
  split
  · next hnull =>
    rw [Value.isNull_iff.mp hnull]
    change Except.ok t = .ok { t with body := .scalar .null }
    rw [← ht]
  · rfl

lemma fill_of_describes (h : Describes d o) (settings : Settings) (fullResponse : Bool) :
    (o.bare settings fullResponse).fill d = .ok (o.template settings fullResponse) := by
  obtain ⟨entries, hentries, hfiles⟩ := h.attachments
  have hbody := setPart_body (t := { o.bare settings fullResponse with
    headers := Node.compileEntries o.headers, query := Node.compileEntries o.query }) rfl o.body
  rw [fill, firstOf_of_get? h.headers, firstOf_of_get? h.query, firstOf_singleton d "body", h.body,
    firstOf_of_get? hentries, attachmentsOf_of_describes hfiles]
  -- headers and query are set by now
  change (setPart _ o.body _ >>= _) = _
  rw [hbody]
  rfl

lemma make_of_describes (h : Describes d o) (settings : Settings) (url : Value) :
    make settings (.map d) url =
      .ok (o.template settings (firstOf d ["fullResponse", "full_response"]).truthy) := by
  rw [make, ofDescriptor, start_of_describes h]
  exact fill_of_describes h settings _

end Descriptor

section Calling

variable {o : Outline}

lemma make_bare (h : o.url ≠ "") (settings : Settings) :
    make settings (.str o.method) (.str o.url) = .ok (o.bare settings false) := by
  have hstart : start settings [(.str "method", .str o.method), (.str "url", .str o.url)] =
      .ok (o.bare settings false) := by
    simp [start, firstOf, Entries.get?, h, Outline.bare, Value.truthy]
  rw [make, ofDescriptor, hstart]
  · simp [fill, firstOf, Entries.get?, setPart, Value.isNull, attachmentsOf, Value.truthy]
    rfl
  · simp

lemma foldlM_apply (t : Template) (calls : List Call) :
    calls.foldlM Call.apply t = .ok { t with
      headers := (calls.filterMap Call.headers?).getLastD t.headers
      query := (calls.filterMap Call.query?).getLastD t.query
      body := (calls.filterMap Call.body?).getLastD t.body
      attachments := t.attachments ++ calls.filterMap Call.attachment? } := by
  induction calls generalizing t with
  | nil => exact congrArg Except.ok (by simp)
  | cons c calls ih =>
    rw [List.foldlM_cons, Call.apply_eq]
    refine (ih (c.set t)).trans ?_
    cases c <;>
      simp only [Call.set, setBody, attach, List.filterMap_cons, Call.headers?, Call.query?,
        Call.body?, Call.attachment?, List.getLastD_cons, List.append_assoc, List.singleton_append]

lemma filterMap_once {α : Type} {calls : List Call} (h : Calls calls o) {f : Call → Option α}
    {a : α} (hattach : ∀ b, f (.attach b) = none)
    (hsettings : [Call.headers o.headers, .query o.query, .body o.body].filterMap f = [a]) :
    calls.filterMap f = [a] := by
  have hfiles : (o.attachments.map Call.attach).filterMap f = [] := by
    simp [List.filterMap_map, hattach]
  have hperm := h.once.filterMap f
  change (calls.filterMap f).Perm
    (([Call.headers o.headers, .query o.query, .body o.body] ++
      o.attachments.map Call.attach).filterMap f) at hperm
  rw [List.filterMap_append, hsettings, hfiles, List.append_nil] at hperm
  exact List.perm_singleton.mp hperm

lemma foldlM_of_calls {calls : List Call} (h : Calls calls o) (settings : Settings)
    (fullResponse : Bool) :
    calls.foldlM Call.apply (o.bare settings fullResponse) =
      .ok (o.template settings fullResponse) := by
  have hheaders := filterMap_once h (f := Call.headers?) (fun _ => rfl) rfl
  have hquery := filterMap_once h (f := Call.query?) (fun _ => rfl) rfl
  have hbody := filterMap_once h (f := Call.body?) (fun _ => rfl) rfl
  rw [foldlM_apply, hheaders, hquery, hbody, h.inOrder]
  rfl

end Calling

theorem descriptor_agrees_with_calls [Idna] (settings : Settings) {d : Table} {o : Outline}
    (hd : Describes d o) {calls : List Call} (hcalls : Calls calls o) :
    ∃ t u, make settings (.map d) .null = .ok t ∧
      (make settings (.str o.method) (.str o.url) >>= fun t => calls.foldlM Call.apply t) = .ok u ∧
      t.parameters = u.parameters ∧ ∀ arguments, t.build arguments = u.build arguments := by
  refine ⟨_, o.template settings false, make_of_describes hd settings .null, ?_, rfl,
    fun arguments => rfl⟩
  rw [make_bare hd.url_ne_empty]
  exact foldlM_of_calls hcalls settings false

def upload : Outline where
  method := "post"
  url := "http://a.test/{!id}"
  headers := [(.str "X-Tag", .str "{tag=none}")]
  query := [(.str "page", .str "{page:number}")]
  body := .map [(.str "note", .str "about {id}")]
  attachments := [⟨"first", "one.txt"⟩, ⟨"second", "two.txt"⟩]

def uploadDescriptor : Table := [
  (.str "formData", .list [
    .map [(.str "filePath", .str "one.txt"), (.str "field", .str "first")],
    .map [(.str "field", .str "second"), (.str "filePath", .str "two.txt")]]),
  (.str "body", upload.body),
  (.str "fullResponse", .bool true),
  (.str "query", .map upload.query),
  (.str "headers", .map upload.headers),
  (.str "url", .str upload.url),
  (.str "method", .str upload.method)]

def uploadCalls : List Call := [
  .attach ⟨"first", "one.txt"⟩, .body upload.body, .attach ⟨"second", "two.txt"⟩,
  .query upload.query, .headers upload.headers]

lemma describes_upload : Describes uploadDescriptor upload where
  method := rfl
  url := rfl
  url_ne_empty := by decide
  headers := rfl
  query := rfl
  body := rfl
  attachments := ⟨_, rfl,
    .cons ⟨⟨_, rfl, rfl, rfl⟩, by decide, by decide⟩
      (.cons ⟨⟨_, rfl, rfl, rfl⟩, by decide, by decide⟩ .nil)⟩

lemma calls_upload : Calls uploadCalls upload where
  once := by
    refine (List.perm_append_singleton (Call.headers upload.headers) (uploadCalls.take 4)).trans ?_
    refine .cons _ ((List.perm_append_singleton (Call.query upload.query)
      (uploadCalls.take 3)).trans ?_)
    exact .cons _ (.swap _ _ _)
  inOrder := rfl

open scoped Idna in
theorem upload_agrees_with_calls :
    Describes uploadDescriptor upload ∧ Calls uploadCalls upload ∧
      ∃ t u, make { timeout := .int 10 } (.map uploadDescriptor) .null = .ok t ∧
        (make { timeout := .int 10 } (.str "post") (.str "http://a.test/{!id}") >>=
          fun t => uploadCalls.foldlM Call.apply t) = .ok u ∧
        t.parameters = u.parameters ∧ ∀ arguments, t.build arguments = u.build arguments :=
  ⟨describes_upload, calls_upload, descriptor_agrees_with_calls _ describes_upload calls_upload⟩

end HttpTemplate.Construction
