import HttpTemplate.Proofs.BodyLimit
import HttpTemplate.Proofs.CommandLine.Endings

/-! What an execution of the command line prints. The value of a call and an application error are
printed as data, and the text that is printed is read as the same data with its members in order. -/

namespace HttpTemplate.CommandLine

open Delivery Descriptors Execution Faults Json

structure HasData (r : Response) : Prop where
  status : Datum r.status
  text : ∃ s, r.text = .str s
  headers : ∃ es, r.headers = .map es ∧ Datum (.map es)

structure GivesData (answer : Outgoing → Except Fault Response) : Prop where
  raised : ∀ request status message body,
    answer request = .error (.application status message body) → Datum status ∧ Datum body
  answered : ∀ request r, answer request = .ok r → HasData r

/-- The result of the call that an execution makes, unless its words are not read, logging is not
set up or an assignment is none. -/
def result? [Idna] (s : Surroundings) (words : List String) : Option (Except Fault Answer) :=
  match Options.read words with
  | .error _ => none
  | .ok o =>
    match (s.log.setup o.logLevel.name?).2, assignments o.assignments with
    | none, .ok values => some (invocation o values s)
    | _, _ => none

def asksFull (descriptor : Table) : Bool :=
  (Template.firstOf descriptor ["fullResponse", "full_response"]).truthy

def AsksFull (s : Surroundings) (words : List String) : Prop :=
  ∃ o descriptor, Options.read words = .ok o ∧ Descriptor.load s.read o.template = .ok descriptor ∧
    (o.fullResponse = true ∨ asksFull descriptor = true)

def Prints (status : Nat) (v : Value) (e : Ending) : Prop :=
  ∃ text w, e = .exit status (text ++ "\n") "" ∧ read text = .ok w ∧ Reordered v w ∧
    Json.Sorted w

inductive Printable (fullResponse : Bool) : Except Fault Answer → Prop
  | plain {v : Value} : fullResponse = false → Datum v → Printable fullResponse (.ok (.plain v))
  | full {r : FullResponse} : fullResponse = true → Datum r.toValue →
      Printable fullResponse (.ok (.full r))
  | application {status body : Value} {message : String} :
      Datum (Ending.errorValue status message body) →
      Printable fullResponse (.error (.application status message body))
  | other {f : Fault} : (∀ status message body, f ≠ .application status message body) →
      Printable fullResponse (.error f)

section Results

variable {s : Surroundings} {words : List String} {result : Except Fault Answer}

lemma result_cases [Idna] (h : result? s words = some result) :
    ∃ o values, Options.read words = .ok o ∧ (s.log.setup o.logLevel.name?).2 = none ∧
      assignments o.assignments = .ok values ∧ result = invocation o values s := by
  rw [result?] at h
  split at h
  · cases h
  · next o ho =>
    split at h
    · next values hlog hvalues =>
      cases h
      exact ⟨o, values, ho, hlog, hvalues, rfl⟩
    · cases h

lemma ending_result [Idna] (h : result? s words = some result) :
    (ofWords s words).ending = .ofResult result := by
  obtain ⟨o, values, ho, hlog, hvalues, rfl⟩ := result_cases h
  rw [ofWords, ho]
  simp only [ofOptions]
  split
  · next hfault => simp [hfault] at hlog
  · rw [hvalues]
    exact ending_ofArguments o values _

end Results

section Data

variable {r : Response} {fullResponse : Bool}

lemma datum_errorValue {status body : Value} (hstatus : Datum status) (hbody : Datum body)
    (message : String) : Datum (Ending.errorValue status message body) := by
  refine .map (by simp) (by simp [Entries.keys]) ?_
  simp only [List.forall_mem_cons]
  exact ⟨hstatus, .str message, hbody, by simp⟩

lemma datum_full {status body : Value} {es : Table} (hstatus : Datum status)
    (hes : Datum (.map es)) (hbody : Datum body) :
    Datum (FullResponse.toValue ⟨status, es, body⟩) := by
  refine .map (by simp) (by simp [Entries.keys]) ?_
  simp only [List.forall_mem_cons]
  exact ⟨hstatus, hes, hbody, by simp⟩

lemma failureMessage_fault {status body : Value} {f : Fault}
    (h : failureMessage status body = .error f) :
    (∃ cause, f = .misuse cause) ∨ ∃ cause, f = .unwritable cause := by
  rw [failureMessage] at h
  split at h
  · cases h
  · split at h
    · obtain ⟨cause, -, rfl⟩ := mapError_eq_error.mp h
      exact .inl ⟨cause, rfl⟩
    · obtain ⟨cause, -, rfl⟩ := mapError_eq_error.mp h
      exact .inr ⟨cause, rfl⟩

lemma isFailure_fault {status : Value} {f : Fault} (h : Response.isFailure status = .error f) :
    ∃ cause, f = .misuse cause := by
  rw [Response.isFailure] at h
  split at h
  · cases h
  · cases h
  · cases h
    exact ⟨_, rfl⟩

lemma answered_fault {body : Value} {f : Fault} (h : r.answered fullResponse body = .error f) :
    (∃ cause, f = .misuse cause) ∨ ∃ cause, f = .unwritable cause := by
  rw [Response.answered] at h
  rcases bind_eq_error.mp h with h | ⟨failed, -, h⟩
  · exact .inl (isFailure_fault h)
  · split at h
    · rcases bind_eq_error.mp h with h | ⟨message, -, h⟩
      · exact failureMessage_fault h
      · cases h
    · split at h
      · rcases bind_eq_error.mp h with h | ⟨es, -, h⟩
        · obtain ⟨cause, -, rfl⟩ := mapError_eq_error.mp h
          exact .inl ⟨cause, rfl⟩
        · cases h
      · cases h

lemma classify_fault {f : Fault} {lines : List Log.Line}
    (h : r.classify fullResponse = (.error f, lines)) :
    (∃ cause, f = .misuse cause) ∨ ∃ cause, f = .unwritable cause := by
  rw [Response.classify] at h
  split at h
  · split at h
    · cases h
    · cases h
      exact .inl ⟨_, rfl⟩
  · split at h
    · exact answered_fault (Prod.mk.inj h).1
    · cases h
      exact .inl ⟨_, rfl⟩

lemma printable_classify (hr : HasData r) {o : Outcome} {lines : List Log.Line}
    (h : r.classify fullResponse = (.ok o, lines)) : Printable fullResponse (awaitedOf o) := by
  obtain ⟨es, hheaders, hes⟩ := hr.headers
  rcases classify_cases h with ⟨message, errorType, category, rfl⟩ | ⟨body, hdecode, ho⟩
  · exact .other (by rintro status message body ⟨⟩)
  · obtain ⟨body', lines', hdecode', hbody⟩ := decodeBody_datum hr.text ⟨es, hheaders⟩
    cases hdecode.symm.trans hdecode'
    rcases answered_cases ho with ⟨message, rfl⟩ | ⟨hfull, table, htable, rfl⟩ | ⟨hplain, rfl⟩
    · exact .application (datum_errorValue hr.status hbody message)
    · rw [hheaders] at htable
      cases htable
      exact .full hfull (datum_full hr.status hes hbody)
    · exact .plain hplain hbody

lemma printable_awaited {answer : Outgoing → Except Fault Response} (hclient : GivesData answer)
    (fullResponse : Bool) (request : Outgoing) :
    Printable fullResponse (Run.execute answer fullResponse request).awaited := by
  cases hanswer : answer request with
  | error f =>
    rw [awaited_of_fault hanswer]
    by_cases happlication : ∃ status message body, f = .application status message body
    · obtain ⟨status, message, body, rfl⟩ := happlication
      obtain ⟨hstatus, hbody⟩ := hclient.raised _ _ _ _ hanswer
      exact .application (datum_errorValue hstatus hbody message)
    · exact .other fun status message body h => happlication ⟨status, message, body, h⟩
  | ok r =>
    cases hclassify : r.classify fullResponse with
    | mk result lines =>
      cases result with
      | error f =>
        have hawaited : (Run.execute answer fullResponse request).awaited = .error f := by
          rw [Run.execute, hanswer]
          simp only [hclassify, Run.awaited]
        rw [hawaited]
        rcases classify_fault hclassify with ⟨cause, rfl⟩ | ⟨cause, rfl⟩
        · exact .other (by rintro status message body ⟨⟩)
        · exact .other (by rintro status message body ⟨⟩)
      | ok o =>
        have hresult : (Run.execute answer fullResponse request).result = .ok o := by
          rw [Run.execute, hanswer]
          simp only [hclassify]
        rw [awaited_of_result hresult]
        exact printable_classify (hclient.answered _ _ hanswer) hclassify

end Data

section Templates

variable {t u : Template}

lemma fullResponse_fill {descriptor : Table} (h : t.fill descriptor = .ok u) :
    u.fullResponse = t.fullResponse :=
  Construction.fill_keeps (p := fun u => u.fullResponse = t.fullResponse) (fun _ _ _ => id)
    (fun _ _ _ => id) (fun _ => id) (fun _ _ => id) rfl h

lemma fullResponse_ofDescriptor {settings : Settings} {descriptor : Table}
    (h : Template.ofDescriptor settings descriptor = .ok t) :
    t.fullResponse = asksFull descriptor := by
  obtain ⟨u, hstart, hfill⟩ := bind_eq_ok.mp h
  rw [fullResponse_fill hfill]
  rw [Template.start] at hstart
  split at hstart
  · split at hstart
    · cases hstart
    · cases hstart
      rfl
  · cases hstart

lemma asksFull_withFlag (o : Options) (descriptor : Table) :
    asksFull (withFlag o descriptor) = (o.fullResponse || asksFull descriptor) := by
  rw [withFlag]
  cases o.fullResponse with
  | false => simp
  | true => simp [asksFull, Template.firstOf, Parameters.get?_put_str, Value.truthy]

end Templates

section Runs

variable {s : Surroundings} {words : List String}

lemma invocation_cases [Idna] (hclient : GivesData s.answer) {o : Options}
    (ho : Options.read words = .ok o) (values : Entries String String) :
    ∃ fullResponse, Printable fullResponse (invocation o values s) ∧
      ((∃ a, invocation o values s = .ok a) → (fullResponse = true ↔ AsksFull s words)) := by
  cases hprepared : preparation o values s with
  | error f =>
    have hfault : invocation o values s = .error f := by
      rw [invocation, hprepared]
      rfl
    refine ⟨true, ?_, ?_⟩
    · rw [hfault]
      refine .other ?_
      cases preparation_fault hprepared <;> rintro status message body ⟨⟩
    · rintro ⟨a, ha⟩
      cases hfault.symm.trans ha
  | ok result =>
    obtain ⟨t, request⟩ := result
    have hinvocation : invocation o values s =
        (Run.execute s.answer t.fullResponse request.outgoing).awaited := by
      rw [invocation, hprepared]
      rfl
    refine ⟨t.fullResponse, ?_, fun _ => ?_⟩
    · rw [hinvocation]
      exact printable_awaited hclient _ _
    · obtain ⟨descriptor, hload, h⟩ := bind_eq_ok.mp hprepared
      obtain ⟨u, hu, h⟩ := bind_eq_ok.mp h
      obtain ⟨r, -, h⟩ := bind_eq_ok.mp h
      cases h
      rw [fullResponse_ofDescriptor hu, asksFull_withFlag, Bool.or_eq_true]
      constructor
      · exact fun h => ⟨o, descriptor, ho, hload, h⟩
      · rintro ⟨o', descriptor', ho', hload', h⟩
        cases ho.symm.trans ho'
        cases hload.symm.trans hload'
        exact h

lemma prints_of_datum (status : Nat) {v : Value} (h : Datum v) :
    Prints status v (Ending.printing status v) := by
  obtain ⟨text, w, hwrite, hread, hreordered, hsorted⟩ := read_printed h
  have hdocument : Ending.document v = .ok (text ++ "\n") := by
    rw [Ending.document, hwrite]
    rfl
  exact ⟨text, w, by rw [Ending.printing, hdocument], hread, hreordered, hsorted⟩

end Runs

section Networks

variable {f : Fault}

lemma leaving_application {source message : String} {endings : List String} {status body : Value}
    (h : f.leaving source endings = .application status message body) :
    f = .application status message body := by
  rw [Fault.leaving.eq_def] at h
  split at h
  · split at h <;> cases h
  · exact h

lemma datum_headers (hs : Table) : Datum (Header.normalizeTable hs).toValue := by
  have hkeys : Entries.keys (Header.normalizeTable hs).toTable =
      (Entries.keys (Header.normalizeTable hs)).map Value.str := by
    simp [Headers.toTable, Entries.keys]
  refine .map (fun e he => (members_texts _ e he).1) ?_ fun e he => ?_
  · rw [hkeys]
    exact (Header.nodup_keys_normalizeTable hs).map fun _ _ => Value.str.inj
  · obtain ⟨d, -, rfl⟩ := List.mem_map.mp he
    exact .str d.2

structure Plain (peer : Peer) : Prop where
  status : Datum peer.status
  refusal : ∀ status message body, peer.refusal ≠ some (.application status message body)
  failure : ∀ status message body, peer.failure ≠ some (.application status message body)

variable {settings : Settings} {m : Machine} {peer : Peer} {request : Outgoing}

lemma hasData_response (h : Datum peer.status) {limit : Int} {body : List UInt8} {r : Response}
    (hr : Network.response m peer limit body = .ok r) : HasData r := by
  obtain ⟨text, -, hr⟩ := bind_eq_ok.mp hr
  obtain ⟨headers, hheaders, hr⟩ := bind_eq_ok.mp hr
  obtain ⟨hs, -, rfl⟩ := map_eq_ok.mp (mapError_eq_ok.mp hheaders)
  cases hr
  exact ⟨h, ⟨text, rfl⟩, ⟨_, rfl, datum_headers hs⟩⟩

lemma fault_of_unsent (hsent : (Network.request settings m peer request).sent = none)
    (h : (Network.request settings m peer request).result = .error f) :
    (∃ cause, f = .misuse cause) ∨ ∃ cause, f = .file cause := by
  rw [Network.request] at hsent h
  split at h
  · cases h
    exact .inl ⟨_, rfl⟩
  · next hheaders =>
    rw [hheaders] at hsent
    simp only [Network.exchange] at hsent h
    split at h
    · next hmultipart =>
      rw [if_pos hmultipart] at hsent
      split at h
      · cases h
        exact .inr ⟨_, rfl⟩
      · next huploads =>
        rw [huploads] at hsent
        cases hsent
    · next hplain =>
      rw [if_neg hplain] at hsent
      cases hsent

lemma givesData_network (settings : Settings) (m : Machine) {peer : Outgoing → Peer}
    (h : ∀ request, Plain (peer request)) :
    GivesData fun request => (Network.request settings m (peer request) request).result where
  raised request status message body hfault := by
    rcases BodyLimit.request_cases settings m request with ⟨f, hf⟩ | hreceived
    · obtain ⟨hsent, hresult⟩ := hf (peer request)
      cases hresult.symm.trans hfault
      rcases fault_of_unsent hsent hresult with ⟨cause, ⟨⟩⟩ | ⟨cause, ⟨⟩⟩
    · rw [(hreceived _).2, BodyLimit.receive_eq] at hfault
      split at hfault
      · next hrefusal =>
        have happlication := leaving_application (Except.error.inj hfault)
        exact absurd (happlication ▸ hrefusal) ((h request).refusal _ _ _)
      · cases hfault
      · next hfailure =>
        have happlication := leaving_application (Except.error.inj hfault)
        exact absurd (happlication ▸ hfailure) ((h request).failure _ _ _)
      · rcases BodyLimit.response_fault hfault with ⟨cause, ⟨⟩⟩ | ⟨e, ⟨⟩⟩
  answered request r hr := by
    rcases BodyLimit.request_cases settings m request with ⟨f, hf⟩ | hreceived
    · exact nomatch (hf (peer request)).2.symm.trans hr
    · rw [(hreceived _).2, BodyLimit.receive_eq] at hr
      split at hr
      · cases hr
      · cases hr
      · cases hr
      · exact hasData_response (h request).status hr

end Networks

theorem output_reads_back [Idna] (s : Surroundings) (hclient : GivesData s.answer)
    (words : List String) :
    (∀ a, result? s words = some (.ok a) →
      Prints 0 (valueOf a) (ofWords s words).ending ∧ ((∃ r, a = .full r) ↔ AsksFull s words)) ∧
    ∀ status message body, result? s words = some (.error (.application status message body)) →
      Prints 1 (Ending.errorValue status message body) (ofWords s words).ending := by
  refine ⟨fun a ha => ?_, fun status message body hfault => ?_⟩
  · obtain ⟨o, values, ho, -, -, hresult⟩ := result_cases ha
    obtain ⟨fullResponse, hprintable, hfull⟩ := invocation_cases hclient ho values
    rw [ending_result ha, ← hfull ⟨a, hresult.symm⟩]
    rw [← hresult] at hprintable
    cases hprintable with
    | @plain v hplain hv =>
      have hending : Ending.ofResult (.ok (.plain v)) = Ending.printing 0 v := by
        rw [Ending.ofResult, Ending.ofAnswer, attribute_document hv.document]
      rw [hending]
      exact ⟨prints_of_datum 0 hv, by simp [hplain]⟩
    | full hfull hr => exact ⟨prints_of_datum 0 hr, by simp [hfull]⟩
  · obtain ⟨o, values, ho, -, -, hresult⟩ := result_cases hfault
    obtain ⟨fullResponse, hprintable, -⟩ := invocation_cases hclient ho values
    rw [ending_result hfault]
    rw [← hresult] at hprintable
    cases hprintable with
    | application hv => exact prints_of_datum 1 hv
    | other hother => exact absurd rfl (hother _ _ _)

def listingText : String := "\x7b\"message\": \"\\u00e9\", \"data\": [-1, [], \x7b\x7d]\x7d"

def listing (status : Int) : Peer where
  status := .int status
  headers := .map [(.str "Content-Type", .str "application/json")]
  chunks := [Text.Utf8.encode listingText]
  url := "http://h/"

def listed (status : Int) : Surroundings :=
  { around (searching "http://h/") with
    answer := fun request =>
      (Network.request { timeout := .int 10 } BodyLimit.bare (listing status) request).result }

lemma givesData_listed {status : Int} (h : Datum (.int status)) :
    GivesData (listed status).answer :=
  givesData_network _ _ fun _ => ⟨h, nofun, nofun⟩

def valueText? : Option (Except Fault Answer) → Option String
  | some (.ok a) => (write .lenient (valueOf a)).toOption
  | _ => none

def failureText? : Option (Except Fault Answer) → Option String
  | some (.error (.application status message body)) =>
    (write .lenient (Ending.errorValue status message body)).toOption
  | _ => none

section Texts

variable {result : Option (Except Fault Answer)} {text : String}

lemma valueText?_eq_some (h : valueText? result = some text) :
    ∃ a, result = some (.ok a) ∧ write .lenient (valueOf a) = .ok text := by
  rw [valueText?.eq_def] at h
  split at h
  · exact ⟨_, rfl, toOption_eq_some.mp h⟩
  · cases h

lemma failureText?_eq_some (h : failureText? result = some text) :
    ∃ status message body, result = some (.error (.application status message body)) ∧
      write .lenient (Ending.errorValue status message body) = .ok text := by
  rw [failureText?.eq_def] at h
  split at h
  · exact ⟨_, _, _, rfl, toOption_eq_some.mp h⟩
  · cases h

end Texts

def fullText : String :=
  "\x7b\"status_code\": 200, \"headers\": \x7b\"content-type\": \"application/json\"\x7d, " ++
    "\"body\": " ++ listingText ++ "\x7d"

def refusedText : String :=
  "\x7b\"status_code\": 404, \"message\": \"\\u00e9\", \"body\": " ++ listingText ++ "\x7d"

open scoped Idna in
theorem output_reads_back_listing :
    GivesData (listed 200).answer ∧ GivesData (listed 404).answer ∧
      (∃ a, result? (listed 200) search.words = some (.ok a) ∧
        write .lenient (valueOf a) = .ok fullText ∧
        Prints 0 (valueOf a) (ofWords (listed 200) search.words).ending ∧ ∃ r, a = .full r) ∧
      ∃ status message body,
        result? (listed 404) search.words = some (.error (.application status message body)) ∧
        write .lenient (Ending.errorValue status message body) = .ok refusedText ∧
        Prints 1 (Ending.errorValue status message body)
          (ofWords (listed 404) search.words).ending := by
  have hvalue : GivesData (listed 200).answer := givesData_listed (.int (by decide))
  have hfailure : GivesData (listed 404).answer := givesData_listed (.int (by decide))
  have hfull : valueText? (result? (listed 200) search.words) = some fullText := by decide +kernel
  have hrefused : failureText? (result? (listed 404) search.words) = some refusedText := by
    decide +kernel
  refine ⟨hvalue, hfailure, ?_, ?_⟩
  · obtain ⟨a, ha, htext⟩ := valueText?_eq_some hfull
    obtain ⟨hprints, hasks⟩ := (output_reads_back _ hvalue search.words).1 a ha
    obtain ⟨descriptor, hload⟩ :
        ∃ descriptor, Descriptor.load (listed 200).read search.template = .ok descriptor :=
      exists_of_isNone (by decide +kernel)
    exact ⟨a, ha, htext, hprints,
      hasks.mpr ⟨search.options, descriptor, read_words search, hload, .inl rfl⟩⟩
  · obtain ⟨status, message, body, hresult, htext⟩ := failureText?_eq_some hrefused
    exact ⟨status, message, body, hresult, htext,
      (output_reads_back _ hfailure search.words).2 status message body hresult⟩

end HttpTemplate.CommandLine
