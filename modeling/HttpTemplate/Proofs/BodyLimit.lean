import HttpTemplate.Client.Network
import HttpTemplate.Proofs.Faults
import Mathlib.Data.List.Basic
import Mathlib.Order.Bounds.Basic

/-! The limit on response bodies. How a body is cut into chunks does not matter: it comes back as a
whole when its length keeps the limit, and is refused at the first chunk that passes it otherwise. A
response whose charset has a name that cannot be looked up, or a codec that refuses its body, is
read as a whole and lost. -/

namespace HttpTemplate.BodyLimit

open Faults Network

/-- The body comes back as a whole within the limit. Beyond it the call fails after the shortest run
of chunks that passes the limit. -/
structure KeepsLimit (limit : Int) (chunks : List (List UInt8)) (e : Exchange) : Prop where
  returns : (∃ answer, e.result = .ok answer) ↔ (chunks.flatten.length : Int) ≤ limit
  content : ∀ answer, e.result = .ok answer →
    answer.content = .bytes chunks.flatten ∧ e.chunksRead = chunks.length
  refusal : limit < chunks.flatten.length →
    (∃ message category, e.result = .error (.transport message (.str "ResponseTooLarge") category)) ∧
      IsLeast {n : Nat | limit < ((chunks.take n).flatten.length : Nat)} e.chunksRead

def Decodes (m : Machine) (name : String) (body : List UInt8) : Prop :=
  ∀ codec, name ≠ "" → body ≠ [] → Text.Charset.ofName? name = none → m.codec? name = some codec →
    ∃ text, codec body = .ok text

structure Legible (m : Machine) (peer : Peer) : Prop where
  charset : ∀ name, peer.charset = some name →
    '\x00' ∉ name.toList ∧ Decodes m name peer.chunks.flatten
  headers : ∀ pairs, peer.headers = .pairing pairs → ∀ e ∈ pairs, e.1.keyFlaw? = none

section Chunks

variable {limit : Int} {chunks : List (List UInt8)} {size : Nat}

lemma readChunks_within (h : (size + chunks.flatten.length : Nat) ≤ limit) :
    readChunks limit size chunks = (chunks.length, some chunks.flatten) := by
  induction chunks generalizing size with
  | nil => rfl
  | cons chunk rest ih =>
    rw [List.flatten_cons, List.length_append, ← Nat.add_assoc] at h
    have hfirst : ¬ limit < (size + chunk.length : Nat) := by omega
    rw [readChunks, if_neg hfirst, ih h]
    rfl

lemma readChunks_beyond (hsize : size ≤ limit)
    (h : limit < (size + chunks.flatten.length : Nat)) :
    ∃ n, readChunks limit size chunks = (n, none) ∧
      IsLeast {n : Nat | limit < (size + (chunks.take n).flatten.length : Nat)} n := by
  induction chunks generalizing size with
  | nil =>
    rw [List.flatten_nil, List.length_nil] at h
    omega
  | cons chunk rest ih =>
    rw [List.flatten_cons, List.length_append, ← Nat.add_assoc] at h
    -- no chunk at all never passes the limit, so that a least number is a successor
    have hpositive : ∀ m : Nat,
        limit < (size + ((chunk :: rest).take m).flatten.length : Nat) → ∃ k, m = k + 1 := by
      intro m hm
      cases m with
      | zero =>
        rw [List.take_zero, List.flatten_nil, List.length_nil] at hm
        omega
      | succ k => exact ⟨k, rfl⟩
    have hstep : ∀ k : Nat, (size + ((chunk :: rest).take (k + 1)).flatten.length : Nat) =
        (size + chunk.length + (rest.take k).flatten.length : Nat) := by
      intro k
      rw [List.take_succ_cons, List.flatten_cons, List.length_append, Nat.add_assoc]
    by_cases hfirst : limit < (size + chunk.length : Nat)
    · refine ⟨1, by rw [readChunks, if_pos hfirst], ?_, ?_⟩
      · rw [Set.mem_ofPred_eq, hstep]
        simpa using hfirst
      · intro m hm
        obtain ⟨k, rfl⟩ := hpositive m hm
        omega
    · obtain ⟨n, hread, hmem, hleast⟩ := ih (Int.not_lt.mp hfirst) h
      refine ⟨n + 1, by rw [readChunks, if_neg hfirst, hread]; rfl, ?_, ?_⟩
      · rw [Set.mem_ofPred_eq, hstep]
        exact hmem
      · intro m hm
        obtain ⟨k, rfl⟩ := hpositive m hm
        rw [Set.mem_ofPred_eq, hstep] at hm
        exact Nat.succ_le_succ (hleast hm)

end Chunks

/-- The limit in force. A setting that is not positive stands for 16 MiB. -/
def bound (s : Settings) : Int := if s.maxBodyBytes ≤ 0 then 16 * 1024 * 1024 else s.maxBodyBytes

lemma limit_eq (s : Settings) : limit s = bound s := rfl

lemma limit_pos (s : Settings) : 0 < limit s := by
  rw [limit_eq, bound]
  split <;> omega

section Answers

variable {m : Machine} {peer : Peer} {l : Int} {body : List UInt8}

lemma checkKey_ok_iff (k : Value) : k.checkKey = .ok () ↔ k.keyFlaw? = none := by
  rw [Value.checkKey]
  cases k.keyFlaw? <;> simp

lemma tableOf_ok_iff (pairs : List (Value × Value)) :
    (∃ t, Value.tableOf pairs = .ok t) ↔ ∀ e ∈ pairs, e.1.keyFlaw? = none := by
  simp only [← checkKey_ok_iff, ← forM_eq_ok (f := fun e : Value × Value => e.1.checkKey),
    Value.tableOf, bind_eq_ok]
  constructor
  · rintro ⟨t, ⟨⟩, hkeys, -⟩
    exact hkeys
  · intro hkeys
    exact ⟨_, (), hkeys, rfl⟩

lemma entries_ok_iff (v : Value) :
    (∃ t, Header.entries v = .ok t) ↔
      ∀ pairs, v = .pairing pairs → ∀ e ∈ pairs, e.1.keyFlaw? = none := by
  by_cases hv : ∃ pairs, v = .pairing pairs
  · obtain ⟨pairs, rfl⟩ := hv
    have hentries : Header.entries (.pairing pairs) = Value.tableOf pairs := rfl
    rw [hentries, tableOf_ok_iff]
    exact ⟨fun h _ heq => Value.pairing.inj heq ▸ h, fun h => h pairs rfl⟩
  · have hok : ∃ t, Header.entries v = .ok t := by
      rw [Header.entries.eq_def]
      split
      · exact ⟨_, rfl⟩
      · split
        · exact absurd ⟨_, rfl⟩ hv
        · exact ⟨_, rfl⟩
    exact iff_of_true hok fun pairs h => absurd ⟨pairs, h⟩ hv

lemma decode_ok_iff (name : Option String) (bytes : List UInt8) :
    (∃ text, decode m name bytes = .ok text) ↔
      ∀ n, name = some n → '\x00' ∉ n.toList ∧ Decodes m n bytes := by
  cases name with
  | none => simp [decode]
  | some n =>
    rw [decode]
    simp only [Option.getD_some, Option.some.injEq, forall_eq', Decodes]
    by_cases hnull : '\x00' ∈ n.toList
    · simp [hnull]
    by_cases hplain : n = "" ∨ bytes = []
    · rcases hplain with rfl | rfl <;> simp [hnull]
    obtain ⟨hn, hbytes⟩ := not_or.mp hplain
    cases hset : Text.Charset.ofName? n with
    | some charset => simp [hnull, hn, hbytes]
    | none => cases hcodec : m.codec? n <;> simp [hnull, hn, hbytes, mapError_eq_ok]

lemma decode_null {name : String} (h : '\x00' ∈ name.toList) (bytes : List UInt8) :
    decode m (some name) bytes = .error (.misuse .nullCharacter) := by
  rw [decode, Option.getD_some, if_pos (by simpa using h)]

lemma response_ok_iff :
    (∃ answer, response m peer l peer.chunks.flatten = .ok answer) ↔ Legible m peer := by
  have hparts : (∃ answer, response m peer l peer.chunks.flatten = .ok answer) ↔
      (∃ text, decode m peer.charset peer.chunks.flatten = .ok text) ∧
        ∃ t, Header.entries peer.headers = .ok t := by
    rw [response, Header.normalize]
    cases decode m peer.charset peer.chunks.flatten <;> cases Header.entries peer.headers <;>
      simp [bind, Except.bind, Except.map, Except.mapError, pure, Except.pure]
  rw [hparts, decode_ok_iff, entries_ok_iff]
  exact ⟨fun ⟨hcharset, hheaders⟩ => ⟨hcharset, hheaders⟩, fun h => ⟨h.charset, h.headers⟩⟩

lemma response_fault {f : Fault} (h : response m peer l body = .error f) :
    (∃ cause, f = .misuse cause) ∨ ∃ e, f = .foreign e := by
  rcases bind_eq_error.mp h with h | ⟨text, -, h⟩
  · rw [decode] at h
    split at h
    · cases h
      exact .inl ⟨_, rfl⟩
    · split at h
      · cases h
      · split at h
        · cases h
        · obtain ⟨e, -, rfl⟩ := mapError_eq_error.mp h
          exact .inr ⟨e, rfl⟩
        · cases h
  · rcases bind_eq_error.mp h with h | ⟨headers, -, h⟩
    · obtain ⟨cause, -, rfl⟩ := mapError_eq_error.mp h
      exact .inl ⟨cause, rfl⟩
    · cases h

lemma content_of_response {answer : Response} (h : response m peer l body = .ok answer) :
    answer.content = .bytes body := by
  obtain ⟨text, -, h⟩ := bind_eq_ok.mp h
  obtain ⟨headers, -, h⟩ := bind_eq_ok.mp h
  cases h
  rfl

end Answers

section Calls

variable {s : Settings} {m : Machine} {peer : Peer} {r : Outgoing}

lemma request_cases (s : Settings) (m : Machine) (r : Outgoing) :
    (∃ f, ∀ peer, (request s m peer r).sent = none ∧ (request s m peer r).result = .error f) ∨
      ∀ peer, (request s m peer r).chunksRead = (receive m peer (limit s) r.url).1 ∧
        (request s m peer r).result = (receive m peer (limit s) r.url).2.2 := by
  simp only [request, exchange]
  cases Network.headers s r with
  | error cause => exact .inl ⟨_, fun _ => ⟨rfl, rfl⟩⟩
  | ok headers =>
    by_cases hmultipart : r.isMultipart = true
    · simp only [hmultipart, if_true]
      obtain ⟨paths, uploads⟩ := openFiles m r.files
      cases uploads with
      | error f => exact .inl ⟨_, fun _ => ⟨rfl, rfl⟩⟩
      | ok uploads => exact .inr fun _ => ⟨rfl, rfl⟩
    · simp only [if_neg hmultipart]
      exact .inr fun _ => ⟨rfl, rfl⟩

lemma received (h : (request s m peer r).sent.isSome = true) :
    (request s m peer r).chunksRead = (receive m peer (limit s) r.url).1 ∧
      (request s m peer r).result = (receive m peer (limit s) r.url).2.2 := by
  rcases request_cases s m r with ⟨f, hf⟩ | hreceived
  · rw [(hf peer).1] at h
    cases h
  · exact hreceived peer

lemma receive_within (hrefusal : peer.refusal = none) (hfailure : peer.failure = none)
    (h : (peer.chunks.flatten.length : Int) ≤ limit s) (url : Value) :
    receive m peer (limit s) url =
      (peer.chunks.length, [], response m peer (limit s) peer.chunks.flatten) := by
  have hread := @readChunks_within _ peer.chunks 0 (by simpa using h)
  simp only [receive, hrefusal, hread, hfailure]

lemma receive_beyond (hrefusal : peer.refusal = none)
    (h : limit s < (peer.chunks.flatten.length : Int)) (url : Value) :
    ∃ n, receive m peer (limit s) url =
        (n, [tooLargeLine url (limit s)], .error (tooLarge (limit s))) ∧
      IsLeast {n : Nat | limit s < ((peer.chunks.take n).flatten.length : Nat)} n := by
  obtain ⟨n, hread, hleast⟩ := @readChunks_beyond _ peer.chunks 0
    (le_of_lt (limit_pos s)) (by simpa using h)
  simp only [Nat.zero_add] at hleast
  exact ⟨n, by simp only [receive, hrefusal, hread], hleast⟩

lemma keepsLimit_beyond (hsent : (request s m peer r).sent.isSome = true)
    (hrefusal : peer.refusal = none) (h : limit s < (peer.chunks.flatten.length : Int)) :
    KeepsLimit (limit s) peer.chunks (request s m peer r) := by
  obtain ⟨hcount, hresult⟩ := received hsent
  obtain ⟨n, hreceive, hleast⟩ := receive_beyond hrefusal h r.url
  rw [hreceive] at hcount hresult
  refine ⟨?_, ?_, fun _ => ⟨⟨_, _, hresult⟩, hcount ▸ hleast⟩⟩
  · rw [hresult]
    exact iff_of_false (by rintro ⟨answer, ⟨⟩⟩) (Int.not_le.mpr h)
  · rw [hresult]
    rintro answer ⟨⟩

lemma keepsLimit_within_iff (hsent : (request s m peer r).sent.isSome = true)
    (hrefusal : peer.refusal = none) (hfailure : peer.failure = none)
    (h : (peer.chunks.flatten.length : Int) ≤ limit s) :
    KeepsLimit (limit s) peer.chunks (request s m peer r) ↔ Legible m peer := by
  obtain ⟨hcount, hresult⟩ := received hsent
  rw [receive_within hrefusal hfailure h] at hcount hresult
  have hreturns : (∃ answer, (request s m peer r).result = .ok answer) ↔ Legible m peer := by
    rw [hresult]
    exact response_ok_iff
  constructor
  · intro hkeeps
    exact hreturns.mp (hkeeps.returns.mpr h)
  · intro hlegible
    refine ⟨iff_of_true (hreturns.mpr hlegible) h, ?_, fun hlimit => absurd h (Int.not_le.mpr hlimit)⟩
    intro answer hanswer
    rw [hresult] at hanswer
    exact ⟨content_of_response hanswer, hcount⟩

lemma readChunks_body (s : Settings) (chunks : List (List UInt8)) :
    (readChunks (limit s) 0 chunks).2 =
      if (chunks.flatten.length : Int) ≤ limit s then some chunks.flatten else none := by
  by_cases h : (chunks.flatten.length : Int) ≤ limit s
  · rw [readChunks_within (by simpa using h), if_pos h]
  · obtain ⟨n, hread, -⟩ := @readChunks_beyond _ chunks 0
      (le_of_lt (limit_pos s)) (by simpa using h)
    rw [hread, if_neg h]

lemma receive_eq (m : Machine) (peer : Peer) (l : Int) (url : Value) :
    (receive m peer l url).2.2 =
      match peer.refusal, (readChunks l 0 peer.chunks).2, peer.failure with
      | some f, _, _ => .error f.leavingTask
      | none, none, _ => .error (tooLarge l)
      | none, some _, some f => .error f.leavingStream
      | none, some body, none => response m peer l body := by
  rw [receive]
  cases peer.refusal with
  | some f => rfl
  | none =>
    obtain ⟨count, body⟩ := readChunks l 0 peer.chunks
    cases body with
    | none => rfl
    | some body => cases peer.failure <;> rfl

lemma receive_rechunked {chunks : List (List UInt8)} (h : chunks.flatten = peer.chunks.flatten)
    (url : Value) :
    (receive m { peer with chunks } (limit s) url).2.2 = (receive m peer (limit s) url).2.2 := by
  have hbody : (readChunks (limit s) 0 chunks).2 = (readChunks (limit s) 0 peer.chunks).2 := by
    rw [readChunks_body, readChunks_body, h]
  rw [receive_eq, receive_eq, hbody]
  rfl

end Calls

theorem request_keeps_limit_iff (s : Settings) (m : Machine) (peer : Peer) (r : Outgoing) :
    ((request s m peer r).sent.isSome = true → peer.refusal = none → peer.failure = none →
      (KeepsLimit (bound s) peer.chunks (request s m peer r) ↔
        Legible m peer ∨ bound s < (peer.chunks.flatten.length : Int))) ∧
      ∀ chunks, chunks.flatten = peer.chunks.flatten →
        (request s m { peer with chunks } r).result = (request s m peer r).result := by
  constructor
  · intro hsent hrefusal hfailure
    rw [← limit_eq]
    by_cases hlimit : limit s < (peer.chunks.flatten.length : Int)
    · exact iff_of_true (keepsLimit_beyond hsent hrefusal hlimit) (.inr hlimit)
    · rw [keepsLimit_within_iff hsent hrefusal hfailure (Int.not_lt.mp hlimit), or_iff_left hlimit]
  · intro chunks h
    rcases request_cases s m r with ⟨f, hf⟩ | hreceived
    · rw [(hf _).2, (hf peer).2]
    · rw [(hreceived _).2, (hreceived peer).2, receive_rechunked h]

def divided : Peer :=
  { url := "http://a.test/", chunks := [[0x68, 0xc3], [], [0xa9, 0x21]], charset := some "utf-8" }

def narrow : Settings := { timeout := .int 10, maxBodyBytes := 4 }

def bare : Machine := FileSystem.machine ⟨[]⟩

def fetch : Outgoing := { url := .str "http://a.test/" }

theorem request_keeps_limit_divided :
    (request narrow bare divided fetch).sent.isSome = true ∧
      KeepsLimit 4 divided.chunks (request narrow bare divided fetch) ∧
      [[0x68, 0xc3, 0xa9], [0x21]].flatten = divided.chunks.flatten ∧
      (request narrow bare { divided with chunks := [[0x68, 0xc3, 0xa9], [0x21]] } fetch).result =
        (request narrow bare divided fetch).result := by
  have hlegible : Legible bare divided := by
    refine ⟨?_, ?_⟩
    · rintro name ⟨⟩
      exact ⟨by decide, fun _ _ _ _ h => nomatch h⟩
    · rintro pairs ⟨⟩
  obtain ⟨hkeeps, hrechunked⟩ := request_keeps_limit_iff narrow bare divided fetch
  exact ⟨rfl, (hkeeps rfl rfl rfl).mpr (.inl hlegible), rfl, hrechunked _ rfl⟩

theorem unreadable_charset_loses_body :
    let peer : Peer := { divided with charset := some "utf-8\x00" }
    (request narrow bare peer fetch).sent.isSome = true ∧ peer.refusal = none ∧
      peer.failure = none ∧ (peer.chunks.flatten.length : Int) ≤ 4 ∧
      (request narrow bare peer fetch).result = .error (.misuse .nullCharacter) ∧
      ¬ KeepsLimit 4 peer.chunks (request narrow bare peer fetch) := by
  intro peer
  have hlength : (peer.chunks.flatten.length : Int) ≤ 4 := by decide
  have hdecode : decode bare peer.charset peer.chunks.flatten =
      .error (.misuse .nullCharacter) :=
    decode_null (by decide) _
  have hresult : (request narrow bare peer fetch).result = .error (.misuse .nullCharacter) := by
    rw [(received rfl).2, receive_within rfl rfl hlength, response, hdecode]
    rfl
  refine ⟨rfl, rfl, rfl, hlength, hresult, fun hkeeps => ?_⟩
  obtain ⟨answer, hanswer⟩ := hkeeps.returns.mpr hlength
  rw [hresult] at hanswer
  cases hanswer

end HttpTemplate.BodyLimit
