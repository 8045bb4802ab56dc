import HttpTemplate.Outcome
import HttpTemplate.Proofs.Assembly
import HttpTemplate.Proofs.Headers
import HttpTemplate.Proofs.Json.RoundTrip
import HttpTemplate.Proofs.Text.Utf8

/-! A body that comes back as it was sent. The default content type makes a response that carries
the request's own headers and body decode to the value that the body was made of. -/

namespace HttpTemplate.Echo

open Assembly Faults Parts

section ContentType

variable {h : Headers}

lemma valueIn_appended (hh : h.has "Content-Type" = false) (value : String) :
    Header.valueIn (Headers.toTable (h ++ [("Content-Type", value)])) (.str "content-type") "" =
      Text.strip value := by
  have hother : ∀ e ∈ h.toTable,
      (!e.1.isNull && Header.foldName e.1 == Header.foldName (.str "content-type")) = false := by
    intro e he
    obtain ⟨⟨name, text⟩, hmem, rfl⟩ := List.mem_map.mp he
    have hname := List.any_eq_false.mp hh _ hmem
    rw [lower_contentType] at hname
    simpa [Header.foldName, Value.text, Value.isNull] using hname
  have hfind : (Headers.toTable (h ++ [("Content-Type", value)])).find? (fun e =>
      !e.1.isNull && Header.foldName e.1 == Header.foldName (.str "content-type")) =
      some (.str "Content-Type", .str value) := by
    rw [Headers.toTable, List.map_append, List.find?_append,
      List.find?_eq_none.mpr fun e he => by simp [hother e he], Option.none_or]
    apply List.find?_cons_of_pos
    simp [Header.foldName, Value.text, Value.isNull, lower_contentType]
  rw [Header.valueIn, hfind]
  rfl

lemma isJson_default (hh : h.has "Content-Type" = false) :
    Header.isJson (Headers.toValue (h ++ [("Content-Type", Request.jsonType)])) = .ok true := by
  have hmentions :
      Text.mentions (Text.lower (Text.strip Request.jsonType)) "json" = true := by
    decide +kernel
  rw [Headers.toValue, Header.isJson_map, valueIn_appended hh, hmentions]

end ContentType

section Bodies

variable {p : Parts} {s : Settings}

lemma assemble_body [Idna] (hfiles : p.attachments = []) (hbody : p.body ≠ .null)
    (hheaders : names p.headers "Content-Type" = false) {text : String}
    (htext : Json.write .strict p.body = .ok text) :
    p.assemble s = (requestUrl p.url p.query).map fun url => {
      url, method := methodText p.method
      timeout := s.timeout, allowRedirects := s.allowRedirects
      headers := some (accepting p.headers ++ [("Content-Type", Request.jsonType)])
      body := some (Text.Utf8.encode text) } := by
  have hnull : p.body.isNull = false := Bool.eq_false_iff.mpr (mt Value.isNull_iff.mp hbody)
  have hjson : toJson p.body = .ok text := by rw [toJson, htext]; rfl
  have hadded : added p.headers "Content-Type" = [("Content-Type", Request.jsonType)] := by
    simp [added, hheaders]
  simp only [assemble, withDefault_accept, hfiles, hnull, hjson, withDefault_contentType, hadded]
  cases requestUrl p.url p.query <;> rfl

lemma decodeBody_json {r : Response} {text : String} {v : Value} (htext : r.text = .str text)
    (hjson : Header.isJson r.headers = .ok true) (hread : Json.read text = .ok v) :
    r.decodeBody = .ok (v, []) := by
  have htruthy : (Value.str text).truthy = true := by
    rw [Value.truthy, bne_iff_ne]
    rintro rfl
    cases hread
  simp only [Response.decodeBody, htext, htruthy, hjson, Response.document?, hread]
  rfl

end Bodies

theorem body_echoes [Idna] (p : Parts) (s : Settings) (hbody : Json.Plain p.body)
    (hnull : p.body ≠ .null) (hfiles : p.attachments = [])
    (hheaders : ∀ e ∈ p.headers, e.2 ≠ .null → Text.lower e.1.text ≠ "content-type") :
    (∀ url, requestUrl p.url p.query = .ok url → ∃ r, p.assemble s = .ok r) ∧
      ∀ r, p.assemble s = .ok r → ∃ body headers text,
        r.body = some body ∧ r.headers = some headers ∧ Text.Utf8.decode body = .ok text ∧
          ∀ response : Response, response.headers = headers.toValue → response.text = .str text →
            response.decodeBody = .ok (p.body, []) := by
  have hnames : names p.headers "Content-Type" = false := by
    rw [names, List.any_eq_false]
    rintro ⟨k, v⟩ he hname
    obtain ⟨hv, hk⟩ : v.isNull = false ∧ Text.lower k.text = Text.lower "Content-Type" := by
      simpa using hname
    rw [lower_contentType, lower_contentType_eq] at hk
    exact hheaders _ he (fun h => by simp [Value.isNull_iff.mpr h] at hv) hk
  obtain ⟨text, hwrite, hread⟩ := Json.read_write (f := .strict) Json.spaced_line hbody
  rw [assemble_body hfiles hnull hnames hwrite]
  refine ⟨fun url hurl => ⟨_, by rw [hurl]; rfl⟩, fun r hr => ?_⟩
  obtain ⟨url, -, rfl⟩ := map_eq_ok.mp hr
  refine ⟨_, _, text, rfl, rfl, Text.Utf8.decode_encode text, fun response hh ht => ?_⟩
  have hjson := isJson_default (h := accepting p.headers)
    ((has_contentType_accepting p.headers).trans hnames)
  exact decodeBody_json ht (hh ▸ hjson) hread

def greeting : Parts where
  method := "post"
  url := "http://a.test/echo"
  headers := [(.str "X-Trace", .int 7), (.str "CONTENT-TYPE", .null)]
  body := .map [(.str "b", .list [.bool true, .int 1, .null, .str "😀\"\n"]),
    (.str "a", .map [(.str "", .int (-12345678901234567890))])]

lemma plain_greeting : Json.Plain greeting.body := by
  have hlist : Json.Plain (.list [.bool true, .int 1, .null, .str "😀\"\n"]) := by
    apply Json.Plain.list
    simp only [List.forall_mem_cons]
    exact ⟨.bool _, .int (by decide), .null, .str _, by simp⟩
  have hmap : Json.Plain (.map [(.str "", .int (-12345678901234567890))]) := by
    refine .map (by simp) (by simp) ?_
    simp only [List.forall_mem_cons]
    exact ⟨.int (by decide), by simp⟩
  refine .map (by simp) (by simp) ?_
  simp only [List.forall_mem_cons]
  exact ⟨hlist, hmap, by simp⟩

open scoped Idna in
theorem greeting_echoes :
    Json.Plain greeting.body ∧
      ∃ r body headers text, greeting.assemble { timeout := .int 10 } = .ok r ∧
        r.body = some body ∧ r.headers = some headers ∧ Text.Utf8.decode body = .ok text ∧
        Response.decodeBody { ok := .bool true, headers := headers.toValue, text := .str text } =
          .ok (greeting.body, []) := by
  have hheaders : ∀ e ∈ greeting.headers, e.2 ≠ .null → Text.lower e.1.text ≠ "content-type" := by
    simp only [greeting, List.forall_mem_cons]
    exact ⟨fun _ => by decide +kernel, fun h => absurd rfl h, by simp⟩
  obtain ⟨hassembles, hechoes⟩ := body_echoes greeting { timeout := .int 10 } plain_greeting
    (by simp [greeting]) rfl hheaders
  obtain ⟨r, hr⟩ := hassembles "http://a.test/echo" rfl
  obtain ⟨body, headers, text, hbody, hh, htext, hdecode⟩ := hechoes r hr
  exact ⟨plain_greeting, r, body, headers, text, hr, hbody, hh, htext, hdecode _ rfl rfl⟩

end HttpTemplate.Echo
