import HttpTemplate.Proofs.Entries
import HttpTemplate.Proofs.Faults
import HttpTemplate.Request

/-! What a client may rely on in an assembled request: a form with files or a body with its type,
and the caller's headers with no more additions than are missing. -/

namespace HttpTemplate.Assembly

open Entries Faults Parts

section Names

variable {h : Headers} {name : String}

lemma has_iff : h.has name = true ↔ ∃ k ∈ h.keys, Text.lower k = Text.lower name := by
  simp [Headers.has, Entries.keys]

lemma has_append (h g : Headers) (name : String) :
    Headers.has (h ++ g) name = (h.has name || g.has name) := by
  simp [Headers.has]

lemma has_congr (h : Headers) {name other : String} (hn : Text.lower name = Text.lower other) :
    h.has name = h.has other := by
  simp only [Headers.has, hn]

lemma not_has_without (h : Headers) (name : String) : (h.without name).has name = false := by
  simp [Headers.has, Headers.without]

lemma has_without_of_ne (h : Headers) {name other : String}
    (hn : Text.lower other ≠ Text.lower name) : (h.without name).has other = h.has other := by
  rw [Bool.eq_iff_iff, Headers.has, Headers.has, List.any_eq_true, List.any_eq_true]
  constructor
  · rintro ⟨e, he, hk⟩
    exact ⟨e, (List.mem_filter.mp he).1, hk⟩
  · rintro ⟨e, he, hk⟩
    refine ⟨e, List.mem_filter.mpr ⟨he, ?_⟩, hk⟩
    rw [bne_iff_ne, eq_of_beq hk]
    exact hn

lemma withDefault_eq (h : Headers) (name value : String) :
    h.withDefault name value = h ++ if h.has name then [] else [(name, value)] := by
  rw [Headers.withDefault]
  cases hhas : h.has name with
  | true => simp
  | false =>
    have hname : name ∉ h.keys := by
      intro hmem
      have hyes : h.has name = true := has_iff.mpr ⟨name, hmem, rfl⟩
      rw [hhas] at hyes
      cases hyes
    simp [put_of_notMem hname]

end Names

def rendered (headers : Table) : List (String × String) :=
  (headers.filter (!·.2.isNull)).map fun (k, v) => (k.text, v.render)

def names (headers : Table) (name : String) : Bool :=
  headers.any fun (k, v) => !v.isNull && Text.lower k.text == Text.lower name

def added (headers : Table) (name : String) : Headers :=
  if names headers name then [] else [(name, Request.jsonType)]

/-- The map that pairs leave: names at the place of their first use, with their last values. -/
structure Writes (pairs : List (String × String)) (m : Headers) : Prop where
  keys : m.keys = (pairs.map (·.1)).eraseDups
  values : ∀ name, m.get? name = (valuesOf name pairs).getLast?

structure Contract (p : Parts) (r : Request) (own headers : Headers) : Prop where
  carried : r.headers = some headers
  written : Writes (rendered p.headers) own
  distinct : ((rendered p.headers).map (·.1)).Nodup → own = rendered p.headers
  accept : headers.has "accept" = true
  multipart : p.attachments ≠ [] →
    r.body = none ∧ (∃ form, r.form = some form) ∧ r.files = p.attachments ∧
      headers.has "content-type" = false ∧
      headers = (own ++ added p.headers "Accept").filter (Text.lower ·.1 != "content-type")
  plain : p.attachments = [] →
    r.form = none ∧ r.files = [] ∧ (r.body = none ↔ p.body = .null) ∧
      (r.body ≠ none → headers.has "content-type" = true) ∧
      headers = own ++ added p.headers "Accept" ++
        if p.body.isNull then [] else added p.headers "Content-Type"

section Headers

variable (headers : Table)

lemma requestHeaders_eq : requestHeaders headers = ofPairs (rendered headers) := rfl

lemma has_requestHeaders (name : String) :
    (requestHeaders headers).has name = names headers name := by
  rw [Bool.eq_iff_iff, has_iff, requestHeaders_eq, keys_ofPairs, names, List.any_eq_true]
  simp only [List.mem_eraseDups, rendered, List.map_map, List.mem_map, List.mem_filter]
  constructor
  · rintro ⟨k, ⟨e, ⟨he, hnull⟩, rfl⟩, hk⟩
    exact ⟨e, he, by simpa using ⟨by simpa using hnull, hk⟩⟩
  · rintro ⟨e, he, hk⟩
    rw [Bool.and_eq_true, beq_iff_eq] at hk
    exact ⟨e.1.text, ⟨e, ⟨he, hk.1⟩, rfl⟩, hk.2⟩

lemma writes_requestHeaders : Writes (rendered headers) (requestHeaders headers) where
  keys := keys_ofPairs _
  values := get?_ofPairs _

lemma lower_accept : Text.lower "Accept" = Text.lower "accept" := by decide +kernel

lemma lower_contentType : Text.lower "Content-Type" = Text.lower "content-type" := by
  decide +kernel

lemma lower_contentType_eq : Text.lower "content-type" = "content-type" := by decide +kernel

lemma lower_accept_ne : Text.lower "accept" ≠ Text.lower "content-type" := by decide +kernel

def accepting : Headers := requestHeaders headers ++ added headers "Accept"

lemma withDefault_accept :
    (requestHeaders headers).withDefault "Accept" Request.jsonType = accepting headers := by
  rw [withDefault_eq, has_requestHeaders, accepting, added]

lemma has_added (name : String) : (names headers name || (added headers name).has name) = true := by
  rw [added]
  cases names headers name <;> simp [Headers.has]

lemma has_accepting : (accepting headers).has "accept" = true := by
  rw [accepting, has_append, has_requestHeaders, ← has_congr _ lower_accept]
  have hsame : names headers "accept" = names headers "Accept" := by
    simp only [names, lower_accept]
  rw [hsame]
  exact has_added headers "Accept"

lemma has_contentType_accepting :
    (accepting headers).has "Content-Type" = names headers "Content-Type" := by
  have hadded : (added headers "Accept").has "Content-Type" = false := by
    rw [added]
    split
    · rfl
    · simp [Headers.has, lower_accept, lower_contentType, lower_accept_ne]
  rw [accepting, has_append, has_requestHeaders, hadded, Bool.or_false]

lemma withDefault_contentType :
    (accepting headers).withDefault "Content-Type" Request.jsonType =
      accepting headers ++ added headers "Content-Type" := by
  rw [withDefault_eq, has_contentType_accepting, added]

lemma has_contentType_added :
    Headers.has (accepting headers ++ added headers "Content-Type") "content-type" = true := by
  rw [← has_congr _ lower_contentType, has_append, has_contentType_accepting]
  exact has_added headers "Content-Type"

lemma without_contentType (h : Headers) :
    h.without "content-type" = h.filter (Text.lower ·.1 != "content-type") := by
  rw [Headers.without, lower_contentType_eq]

end Headers

lemma assemble_cases [Idna] {p : Parts} {s : Settings} {r : Request} (h : p.assemble s = .ok r) :
    (p.attachments ≠ [] ∧ ∃ form, r.body = none ∧ r.form = some form ∧ r.files = p.attachments ∧
      r.headers = some ((accepting p.headers).without "content-type")) ∨
    (p.attachments = [] ∧ p.body.isNull = true ∧ r.body = none ∧ r.form = none ∧ r.files = [] ∧
      r.headers = some (accepting p.headers)) ∨
    (p.attachments = [] ∧ p.body.isNull = false ∧ r.form = none ∧ r.files = [] ∧
      (∃ bytes, r.body = some bytes) ∧
      r.headers = some (accepting p.headers ++ added p.headers "Content-Type")) := by
  simp only [Parts.assemble, withDefault_accept] at h
  obtain ⟨url, -, h⟩ := bind_eq_ok.mp h
  split at h
  · next hfiles =>
    obtain ⟨form, -, h⟩ := bind_eq_ok.mp h
    cases h
    exact .inl ⟨by simpa using hfiles, form, rfl, rfl, rfl, rfl⟩
  · next hfiles =>
    have hnone : p.attachments = [] := by simpa using hfiles
    split at h
    · next hnull =>
      cases h
      exact .inr (.inl ⟨hnone, hnull, rfl, rfl, rfl, rfl⟩)
    · next hnull =>
      obtain ⟨text, -, h⟩ := bind_eq_ok.mp h
      cases h
      refine .inr (.inr ⟨hnone, by simpa using hnull, rfl, rfl, ⟨_, rfl⟩, ?_⟩)
      rw [withDefault_contentType]

theorem assemble_keeps_contract [Idna] (p : Parts) (s : Settings) (r : Request)
    (h : p.assemble s = .ok r) : ∃ own headers, Contract p r own headers := by
  have hwritten := writes_requestHeaders p.headers
  have hdistinct : ((rendered p.headers).map (·.1)).Nodup →
      requestHeaders p.headers = rendered p.headers := ofPairs_eq_self
  have haccept := has_accepting p.headers
  rcases assemble_cases h with
    ⟨hfiles, form, hbody, hform, hr, hh⟩ | ⟨hnone, hnull, hbody, hform, hr, hh⟩ |
      ⟨hnone, hnull, hform, hr, ⟨bytes, hbody⟩, hh⟩
  · refine ⟨requestHeaders p.headers, _, hh, hwritten, hdistinct, ?_, fun _ => ?_, ?_⟩
    · rwa [has_without_of_ne _ lower_accept_ne]
    · exact ⟨hbody, ⟨form, hform⟩, hr, not_has_without _ _, without_contentType _⟩
    · exact fun hempty => absurd hempty hfiles
  · refine ⟨requestHeaders p.headers, _, hh, hwritten, hdistinct, haccept, ?_, fun _ => ?_⟩
    · exact fun hsome => absurd hnone hsome
    · refine ⟨hform, hr, by simp [hbody, Value.isNull_iff.mp hnull], by simp [hbody], ?_⟩
      simp [hnull, accepting]
  · refine ⟨requestHeaders p.headers, _, hh, hwritten, hdistinct, ?_, ?_, fun _ => ?_⟩
    · rw [has_append, haccept, Bool.true_or]
    · exact fun hsome => absurd hnone hsome
    · have hbodyIff : r.body = none ↔ p.body = .null := by
        simp [hbody, ← Value.isNull_iff, hnull]
      refine ⟨hform, hr, hbodyIff, fun _ => has_contentType_added _, ?_⟩
      simp [hnull, accepting]

def upload : Parts where
  method := "post"
  url := "http://a.test/files"
  headers := [(.str "CONTENT-type", .str "text/plain"), (.str "Accept", .null), (.str "X-Part", .int 3)]
  body := .map [(.str "note", .str "hi"), (.str "skip", .null)]
  attachments := [⟨"file", "/tmp/data.bin"⟩]

open scoped Idna in
theorem upload_keeps_contract :
    ∃ r, upload.assemble { timeout := .int 10 } = .ok r ∧
      r.headers = some [("X-Part", "3"), ("Accept", "application/json")] ∧
      r.form = some [("note", "hi")] ∧ ∃ own headers, Contract upload r own headers := by
  have hrun : ((upload.assemble { timeout := .int 10 }).toOption.map fun r => (r.headers, r.form)) =
      some (some [("X-Part", "3"), ("Accept", "application/json")], some [("note", "hi")]) := by
    decide +kernel
  obtain ⟨r, hr, hparts⟩ := Option.map_eq_some_iff.mp hrun
  obtain ⟨hheaders, hform⟩ := Prod.ext_iff.mp hparts
  have hok := toOption_eq_some.mp hr
  exact ⟨r, hok, hheaders, hform, assemble_keeps_contract upload _ r hok⟩

end HttpTemplate.Assembly
