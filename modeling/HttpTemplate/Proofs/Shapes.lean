import HttpTemplate.Client.Completion
import HttpTemplate.Outcome
import HttpTemplate.Proofs.Headers
import HttpTemplate.Proofs.Parameters

/-! One answer of a transport in two shapes, as a mapping and as an object with attributes. The
object's header names are trimmed and those that are blank left out, the mapping's are not, and this
is all that the shapes differ in. -/

namespace HttpTemplate.Shapes

open Completion Entries Header

structure Answer where
  status : Value
  headers : Table
  url : Value

structure Answer.InMapping (a : Answer) (data : Table) : Prop where
  status : get? (.str "status_code") data = some a.status
  headers : get? (.str "headers") data = some (.map a.headers)
  url : get? (.str "url") data = some a.url
  only : ∀ k ∈ keys data, ∃ name ∈ ["status_code", "headers", "url"], k = .str name

structure Answer.InObject (a : Answer) (v : Value) : Prop where
  status : v.attribute? "status_code" = some a.status
  headers : v.attribute? "headers" = some (.map a.headers)
  url : v.attribute? "url" = some a.url

def answering (v body : Value) : Completion where
  calls := [{ reply := .value v, body }]

structure Agree (r s : Response) : Prop where
  ok : r.ok = s.ok
  status : r.status = s.status
  headers : r.headers = s.headers
  text : r.text = s.text
  content : r.content = s.content
  url : r.url = s.url

def Tidy (name : String) : Prop := Text.strip name = name ∧ name ≠ ""

instance (name : String) : Decidable (Tidy name) := inferInstanceAs (Decidable (_ ∧ _))

section Reading

structure Holds (t : Table) (a : Answer) (headers body : Value) : Prop where
  status : get? (.str "status_code") t = some a.status
  headers : get? (.str "headers") t = some headers
  body : (get? (.str "body") t).getD .null = body
  url : get? (.str "url") t = some a.url
  only : ∀ k ∈ keys t, ∃ name ∈ ["status_code", "headers", "body", "url"], k = .str name

def respond (a : Answer) (headers : Headers) (body : Value) : Response where
  ok := .bool (!a.status.isNull)
  status := a.status
  headers := headers.toValue
  text := .str (Response.bodyParts body).1
  content := .bytes (Response.bodyParts body).2
  url := a.url

variable {a : Answer} {t data : Table} {headers body v : Value}

lemma beq_str_of_notMem {k : Value} {names : List String} {name : String}
    (hk : ∃ other ∈ names, k = .str other) (hname : name ∉ names) : (k == .str name) = false := by
  obtain ⟨other, hother, rfl⟩ := hk
  refine Bool.eq_false_iff.mpr (mt Value.beq_str_iff.mp fun heq => ?_)
  cases heq
  exact hname hother

lemma Holds.get?_none (h : Holds t a headers body) (name : String)
    (hname : name ∉ ["status_code", "headers", "body", "url"]) : get? (.str name) t = none :=
  get?_of_forall_ne fun k hk => beq_str_of_notMem (h.only k hk) hname

lemma Holds.no_extra (h : Holds t a headers body) :
    t.filter (fun (k, _) => !Response.isMember k) = [] := by
  have hmembers : ∀ name ∈ ["status_code", "headers", "body", "url"],
      Response.isMember (.str name) = true := by
    decide
  rw [List.filter_eq_nil_iff]
  intro e he
  obtain ⟨name, hname, hk⟩ := h.only e.1 (List.mem_map_of_mem he)
  simp [hk, hmembers name hname]

lemma Holds.ofMapping_eq (h : Holds t a headers body) :
    Response.ofMapping t = respond a (Response.mappingHeaders headers) body := by
  have hok := h.get?_none "ok" (by decide)
  have hmessage := h.get?_none "error_message" (by decide)
  have htype := h.get?_none "error_type" (by decide)
  simp only [Response.ofMapping, Response.member, h.status, h.headers, h.body, h.url, hok, hmessage,
    htype, h.no_extra]
  rfl

lemma holds_mapping (h : a.InMapping data) (body : Value) :
    Holds (if body.isNull then data else data.put (.str "body") body) a (.map a.headers) body := by
  have honly : ∀ k ∈ keys data, ∃ name ∈ ["status_code", "headers", "body", "url"], k = .str name := by
    have hsubset : ["status_code", "headers", "url"] ⊆ ["status_code", "headers", "body", "url"] := by
      simp
    exact fun k hk => (h.only k hk).imp fun name hname => ⟨hsubset hname.1, hname.2⟩
  have hbody : ∀ k ∈ keys data, (k == .str "body") = false := fun k hk =>
    beq_str_of_notMem (h.only k hk) (by decide)
  have hnone := get?_of_forall_ne hbody
  split
  · next hnull =>
    refine ⟨h.status, h.headers, ?_, h.url, honly⟩
    rw [hnone, Value.isNull_iff.mp hnull]
    rfl
  · have hput : data.put (.str "body") body = data ++ [(.str "body", body)] := put_of_forall_ne hbody
    rw [hput]
    refine ⟨?_, ?_, ?_, ?_, fun k hk => ?_⟩
    · rw [get?_append, h.status, Option.some_or]
    · rw [get?_append, h.headers, Option.some_or]
    · rw [get?_append, hnone, Option.none_or, get?, if_pos (Value.beq_str_iff.mpr rfl),
        Option.getD_some]
    · rw [get?_append, h.url, Option.some_or]
    · rw [keys, List.map_append, List.mem_append] at hk
      rcases hk with hk | hk
      · exact honly k hk
      · exact ⟨"body", by simp, List.mem_singleton.mp hk⟩

lemma unsettled_mapping (h : a.InMapping data) (body : Value) :
    unsettled (.value (.map data)) body =
      .ok (respond a (Response.mappingHeaders (.map a.headers)) body) :=
  congrArg Except.ok (holds_mapping h body).ofMapping_eq

lemma unsettled_object (h : a.InObject v) (body : Value) :
    unsettled (.value v) body =
      .ok (respond a (Response.mappingHeaders (Header.normalizeTable a.headers).toValue) body) := by
  have hholds : Holds [(.str "status_code", a.status),
      (.str "headers", (Header.normalizeTable a.headers).toValue), (.str "body", body),
      (.str "url", a.url)] a (Header.normalizeTable a.headers).toValue body :=
    ⟨rfl, rfl, rfl, rfl, by simp [keys]⟩
  cases v with
  | record look attributes =>
    change ofObject _ body = _
    rw [ofObject, attributeOf, attributeOf, attributeOf, h.status, h.headers, h.url, Header.normalize,
      Option.getD_some, Option.getD_some, Option.getD_some, entries_map]
    exact congrArg Except.ok hholds.ofMapping_eq
  | _ => cases h.status

end Reading

section Settling

variable (a : Answer) (headers : Headers)

lemma withBody_respond (body : Value) :
    withBody (respond a headers body) body = respond a headers body := by
  rw [withBody.eq_def]
  split
  · rfl
  · cases body <;> rfl

lemma withUrl_respond (body url : Value) :
    withUrl (respond a headers body) url =
      respond { a with url := if a.url.isNull then url else a.url } headers body := by
  rw [withUrl]
  cases hurl : a.url.isNull with
  | true => simp [respond, hurl]
  | false => simp [respond, hurl]

lemma settle_answering {v body : Value} (url : Value)
    (h : unsettled (.value v) body = .ok (respond a headers body)) :
    (answering v body).settle? url =
      some (.ok (respond { a with url := if a.url.isNull then url else a.url } headers body)) := by
  have hresponse : Completion.response (.value v) body url =
      .ok (respond { a with url := if a.url.isNull then url else a.url } headers body) := by
    rw [Completion.response, h, Except.map, withBody_respond, withUrl_respond]
  change some ((Completion.response (.value v) body url).mapError Fault.misuse) = _
  rw [hresponse]
  rfl

end Settling

section Headers

variable {hs : Table}

def lowered (pairs : List (String × String)) : List (String × String) :=
  pairs.map fun e => (Text.lower e.1, e.2)

lemma mappingHeaders_map (hs : Table) :
    Response.mappingHeaders (.map hs) = ofPairs (lowered (named hs)) := by
  have htable : (if (Value.map hs).truthy then (Value.map hs).table?.getD [] else []) = hs := by
    cases hs <;> rfl
  rw [Response.mappingHeaders, htable, lowered, named, List.map_map]
  rfl

lemma mappingHeaders_normalized (hs : Table) :
    Response.mappingHeaders (Header.normalizeTable hs).toValue = Header.normalizeTable hs := by
  have hsame : lowered (named (Header.normalizeTable hs).toTable) = Header.normalizeTable hs := by
    have hlower : ∀ e ∈ Header.normalizeTable hs, Text.lower e.1 = e.1 := fun e he =>
      (keys_normalizeTable (List.mem_map_of_mem he)).1
    rw [named_toTable, lowered]
    conv_rhs => rw [← List.map_id (Header.normalizeTable hs)]
    exact List.map_congr_left fun e he => Prod.ext (hlower e he) rfl
  rw [Headers.toValue, mappingHeaders_map, hsame, ofPairs_eq_self (nodup_keys_normalizeTable hs)]

lemma headers_agree_iff (hs : Table) :
    ofPairs (lowered (named hs)) = Header.normalizeTable hs ↔
      ∀ e ∈ hs, e.1 ≠ .null → Tidy e.1.text := by
  have hnames : (∀ e ∈ hs, e.1 ≠ .null → Tidy e.1.text) ↔ ∀ e ∈ named hs, Tidy e.1 := by
    rw [named, List.forall_mem_map]
    simp [List.mem_filter, Value.isNull_iff, ← Bool.not_eq_true]
  rw [hnames]
  constructor
  · -- the names of the mapping are those of normalized headers, which have no blanks at their ends
    intro h e he
    have hmem : Text.lower e.1 ∈ keys (Header.normalizeTable hs) := by
      rw [← h, keys_ofPairs, List.mem_eraseDups, lowered, List.map_map]
      exact List.mem_map_of_mem he
    obtain ⟨-, hstrip, hne⟩ := keys_normalizeTable hmem
    exact ⟨Text.strip_lower_iff.mp hstrip, mt Text.lower_eq_empty_iff.mpr hne⟩
  · intro h
    have hsame : normalized (named hs) = lowered (named hs) := by
      rw [normalized, lowered, ← List.filterMap_eq_map]
      refine List.filterMap_congr fun e he => ?_
      obtain ⟨hstrip, hne⟩ := h e he
      rw [hstrip, if_neg (mt Text.lower_eq_empty_iff.mp hne)]
      rfl
    rw [normalizeTable_eq, hsame]

end Headers

section Transports

variable {a : Answer} {data : Table} {v : Value}

theorem shapes_agree_iff (hdata : a.InMapping data) (hv : a.InObject v) (body url : Value) :
    ∃ r s, (answering (.map data) body).settle? url = some (.ok r) ∧
      (answering v body).settle? url = some (.ok s) ∧
      (Agree r s ↔ ∀ e ∈ a.headers, e.1 ≠ .null → Tidy e.1.text) ∧
      (Agree r s → ∀ fullResponse, r.classify fullResponse = s.classify fullResponse) := by
  have hmapping := settle_answering a _ url (unsettled_mapping hdata body)
  have hobject := settle_answering a _ url (unsettled_object hv body)
  rw [mappingHeaders_map] at hmapping
  rw [mappingHeaders_normalized] at hobject
  refine ⟨_, _, hmapping, hobject, ?_, fun h fullResponse => ?_⟩
  · rw [← headers_agree_iff]
    constructor
    · exact fun h => toValue_injective h.headers
    · intro h
      rw [h]
      exact ⟨rfl, rfl, rfl, rfl, rfl, rfl⟩
  · rw [toValue_injective h.headers]

end Transports

section Runs

def Answer.mapping (a : Answer) : Value :=
  .map [(.str "headers", .map a.headers), (.str "url", a.url), (.str "status_code", a.status)]

def Answer.object (a : Answer) : Value :=
  .record {} [("status_code", a.status), ("headers", .map a.headers), ("url", a.url)]

variable (a : Answer)

lemma inMapping_mapping :
    a.InMapping [(.str "headers", .map a.headers), (.str "url", a.url),
      (.str "status_code", a.status)] :=
  ⟨rfl, rfl, rfl, by simp [keys]⟩

lemma inObject_object : a.InObject a.object := ⟨rfl, rfl, rfl⟩

end Runs

def greeting : Answer where
  status := .int 200
  headers := [(.str "X-Tag", .int 1), (.str "Content-Type", .str "text/plain"), (.str "x-tag", .null),
    (.null, .str "?")]
  url := .null

theorem greeting_shapes_agree :
    ∃ r s, (answering greeting.mapping (.str "hi")).settle? (.str "http://a.test/") = some (.ok r) ∧
      (answering greeting.object (.str "hi")).settle? (.str "http://a.test/") = some (.ok s) ∧
      Agree r s ∧ r.classify true = s.classify true := by
  obtain ⟨r, s, hr, hs, hagree, hclassify⟩ := shapes_agree_iff (inMapping_mapping greeting)
    (inObject_object greeting) (.str "hi") (.str "http://a.test/")
  have htidy : Tidy "X-Tag" ∧ Tidy "Content-Type" ∧ Tidy "x-tag" := by decide +kernel
  have hsame : Agree r s := by
    rw [hagree]
    simp only [greeting, List.forall_mem_cons]
    exact ⟨fun _ => htidy.1, fun _ => htidy.2.1, fun _ => htidy.2.2, fun h => absurd rfl h, by simp⟩
  exact ⟨r, s, hr, hs, hsame, hclassify hsame true⟩

def padded : Answer where
  status := .int 200
  headers := [(.str " A", .str "1")]
  url := .str "http://a.test/"

theorem padded_shapes_disagree :
    ∃ r s, (answering padded.mapping (.str "hi")).settle? (.str "http://a.test/") = some (.ok r) ∧
      (answering padded.object (.str "hi")).settle? (.str "http://a.test/") = some (.ok s) ∧
      r.headers = .map [(.str " a", .str "1")] ∧ s.headers = .map [(.str "a", .str "1")] ∧
      ¬ Agree r s := by
  have hread : ofPairs (lowered (named padded.headers)) = [(" a", "1")] := by decide +kernel
  have hnormalized : Header.normalizeTable padded.headers = [("a", "1")] := by decide +kernel
  have hmapping := settle_answering padded _ (.str "http://a.test/")
    (unsettled_mapping (inMapping_mapping padded) (.str "hi"))
  have hobject := settle_answering padded _ (.str "http://a.test/")
    (unsettled_object (inObject_object padded) (.str "hi"))
  rw [mappingHeaders_map, hread] at hmapping
  rw [mappingHeaders_normalized, hnormalized] at hobject
  refine ⟨_, _, hmapping, hobject, rfl, rfl, fun h => ?_⟩
  have hnames := toValue_injective h.headers
  simp at hnames

end HttpTemplate.Shapes
