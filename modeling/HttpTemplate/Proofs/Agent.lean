import HttpTemplate.Client.Network
import HttpTemplate.Proofs.Entries
import HttpTemplate.Proofs.Faults

/-! The user agent of a request that is sent. All headers of the request are handed over as they
are, and one that names the user agent in the usual spelling keeps the agent of the settings away.
One in another spelling does not, and the name is sent twice. -/

namespace HttpTemplate.Agent

open Entries Faults Network

def agentName : String := "User-Agent"

def ownHeaders (r : Outgoing) : Except Misuse Table :=
  if r.headers.truthy then r.headers.toTable else .ok []

def Distinct (t : Table) : Prop := (t.map (Header.foldName ·.1)).Nodup

def SpellsAgent (t : Table) : Prop := ∃ e ∈ t, e.1 = .str agentName

def SpellsAsUsual (t : Table) : Prop :=
  ∀ e ∈ t, Header.foldName e.1 = Text.lower agentName → e.1 = .str agentName

def carriesAgent (t : Table) : Bool := t.any fun e => Header.foldName e.1 == Text.lower agentName

/-- Names stay distinct, headers keep their values, and the agent of the settings is added where
none is carried in any casing, and only there. -/
structure Completes (s : Settings) (own sent : Table) : Prop where
  distinct : Distinct sent
  kept : ∀ e ∈ own, e ∈ sent
  agent : sent = own ++ if carriesAgent own then [] else [(.str agentName, .str s.userAgent)]

section Headers

variable {s : Settings} {own : Table}

lemma headers_eq (s : Settings) (r : Outgoing) :
    Network.headers s r = (ownHeaders r).map (withAgent s) := by
  rw [Network.headers, ownHeaders]
  split <;> rfl

lemma get?_agent_eq_none : own.get? (.str agentName) = none ↔ ¬ SpellsAgent own := by
  induction own with
  | nil => simp [SpellsAgent]
  | cons e own ih =>
    obtain ⟨k, v⟩ := e
    by_cases hk : k = .str agentName
    · simp [get?, hk, SpellsAgent]
    · have hne : (k == .str agentName) = false := Bool.eq_false_iff.mpr (mt Value.beq_str_iff.mp hk)
      rw [get?, if_neg (by simp [hne]), ih]
      simp [SpellsAgent, hk]

lemma withAgent_of_spells (h : SpellsAgent own) : withAgent s own = own := by
  rw [withAgent]
  split
  · rfl
  · next hnone => exact absurd h (get?_agent_eq_none.mp hnone)

lemma withAgent_of_not_spells (h : ¬ SpellsAgent own) :
    withAgent s own = own ++ [(.str agentName, .str s.userAgent)] := by
  have hnone := get?_agent_eq_none.mpr h
  have hput : own.put (.str agentName) (.str s.userAgent) =
      own ++ [(.str agentName, .str s.userAgent)] := by
    apply put_of_forall_ne
    intro k hk
    obtain ⟨e, he, rfl⟩ := List.mem_map.mp hk
    rw [Bool.eq_false_iff, ne_eq, Value.beq_str_iff]
    exact fun heq => h ⟨e, he, heq⟩
  rw [agentName] at hnone hput ⊢
  simp only [withAgent, hnone, hput]

lemma kept_withAgent (s : Settings) (own : Table) : own <+: withAgent s own := by
  by_cases h : SpellsAgent own
  · exact ⟨[], by rw [withAgent_of_spells h, List.append_nil]⟩
  · exact ⟨_, (withAgent_of_not_spells h).symm⟩

lemma carriesAgent_iff :
    carriesAgent own = true ↔ ∃ e ∈ own, Header.foldName e.1 = Text.lower agentName := by
  simp [carriesAgent]

lemma foldName_str (name : String) : Header.foldName (.str name) = Text.lower name := rfl

lemma distinct_append_agent (hd : Distinct own) :
    Distinct (own ++ [(.str agentName, .str s.userAgent)]) ↔ carriesAgent own = false := by
  rw [Bool.eq_false_iff, ne_eq, carriesAgent_iff, Distinct, List.map_append, List.map_singleton,
    foldName_str, ← List.concat_eq_append, List.nodup_concat, List.mem_map]
  exact ⟨fun h => h.1, fun h => ⟨h, hd⟩⟩

lemma carriesAgent_of_spells (h : SpellsAgent own) : carriesAgent own = true := by
  obtain ⟨e, he, hname⟩ := h
  exact carriesAgent_iff.mpr ⟨e, he, by rw [hname, foldName_str]⟩

lemma spellsAsUsual_of_spells (hd : Distinct own) (h : SpellsAgent own) : SpellsAsUsual own := by
  obtain ⟨d, hd', hname⟩ := h
  intro e he hfold
  have hsame : Header.foldName e.1 = Header.foldName d.1 := by rw [hfold, hname, foldName_str]
  rw [List.inj_on_of_nodup_map hd he hd' hsame, hname]

lemma carriesAgent_eq_false (h : ¬ SpellsAgent own) (hu : SpellsAsUsual own) :
    carriesAgent own = false := by
  rw [Bool.eq_false_iff, ne_eq, carriesAgent_iff]
  rintro ⟨e, he, hfold⟩
  exact h ⟨e, he, hu e he hfold⟩

lemma completes_withAgent_iff (s : Settings) (hd : Distinct own) :
    Completes s own (withAgent s own) ↔ SpellsAsUsual own := by
  have hkept : ∀ e ∈ own, e ∈ withAgent s own := fun e he => (kept_withAgent s own).mem he
  by_cases h : SpellsAgent own
  · refine ⟨fun _ => spellsAsUsual_of_spells hd h, fun _ => ⟨?_, hkept, ?_⟩⟩
    · rwa [withAgent_of_spells h]
    · rw [withAgent_of_spells h, carriesAgent_of_spells h]
      simp
  · rw [withAgent_of_not_spells h] at hkept ⊢
    constructor
    · intro hc e he hfold
      have hnone := (distinct_append_agent hd).mp hc.distinct
      exact absurd (carriesAgent_iff.mpr ⟨e, he, hfold⟩) (by simp [hnone])
    · intro hu
      have hnone := carriesAgent_eq_false h hu
      exact ⟨(distinct_append_agent hd).mpr hnone, hkept, by simp [hnone]⟩

end Headers

lemma sent_headers {s : Settings} {m : Machine} {peer : Peer} {r : Outgoing} {own : Table}
    (hown : ownHeaders r = .ok own) {message : Sent}
    (h : (Network.request s m peer r).sent = some message) :
    message.headers = withAgent s own := by
  rw [Network.request, headers_eq, hown] at h
  simp only [Except.map, exchange] at h
  split at h
  · split at h
    · cases h
    · cases h
      rfl
  · cases h
    rfl

theorem agent_completes_iff (s : Settings) (m : Machine) (peer : Peer) (r : Outgoing)
    (own : Table) (hown : ownHeaders r = .ok own) (hd : Distinct own) (message : Sent)
    (h : (Network.request s m peer r).sent = some message) :
    own <+: message.headers ∧ (Completes s own message.headers ↔ SpellsAsUsual own) := by
  rw [sent_headers hown h]
  exact ⟨kept_withAgent s own, completes_withAgent_iff s hd⟩

def calm : Settings := { timeout := .int 10 }

def tagged (name : String) : Outgoing :=
  { url := .str "http://a.test/", headers := .map [(.str name, .str "mine")] }

def sentTagged (name : String) : Option Sent :=
  (Network.request calm (FileSystem.machine ⟨[]⟩) { url := "" } (tagged name)).sent

theorem agent_completes_tagged :
    Distinct [(.str "USER-AGENTS", .str "mine")] ∧
      ∃ message, sentTagged "USER-AGENTS" = some message ∧
        message.headers =
          [(.str "USER-AGENTS", .str "mine"), (.str "User-Agent", .str "resttemplate/0.1.0")] ∧
        [(.str "USER-AGENTS", .str "mine")] <+: message.headers ∧
        (Completes calm [(.str "USER-AGENTS", .str "mine")] message.headers ↔
          SpellsAsUsual [(.str "USER-AGENTS", .str "mine")]) := by
  have hd : Distinct [(.str "USER-AGENTS", .str "mine")] := List.nodup_singleton _
  have hiff := agent_completes_iff calm (FileSystem.machine ⟨[]⟩) { url := "" }
    (tagged "USER-AGENTS") _ rfl hd _ rfl
  exact ⟨hd, _, rfl, rfl, hiff⟩

theorem misspelled_agent_sent_twice :
    Distinct [(.str "user-agent", .str "mine")] ∧
      ∃ message, sentTagged "user-agent" = some message ∧
        message.headers =
          [(.str "user-agent", .str "mine"), (.str "User-Agent", .str "resttemplate/0.1.0")] ∧
        ¬ Distinct message.headers ∧
        ¬ Completes calm [(.str "user-agent", .str "mine")] message.headers := by
  have hsame : Text.lower "user-agent" = Text.lower "User-Agent" := by decide +kernel
  have htwice : ¬ Distinct
      [(.str "user-agent", .str "mine"), (.str "User-Agent", .str "resttemplate/0.1.0")] := by
    simp [Distinct, foldName_str, hsame]
  exact ⟨List.nodup_singleton _, _, rfl, rfl, htwice, fun h => htwice h.distinct⟩

end HttpTemplate.Agent
