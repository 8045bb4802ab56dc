import HttpTemplate.Proofs.Json.Reals

/-! What is read from a JSON text is data: numbers are in their normal form, no whole number has too
many digits, and the members of an object have names of their own. -/

namespace HttpTemplate.Json

open Binary64 Faults

section Scalars

variable {s rest : List Char} {v : Value}

lemma datum_word (h : word? s = some (v, rest)) : Datum v := by
  have hwords : ∀ w ∈ words, Datum w.2 := by
    simp only [words, List.forall_mem_cons]
    exact ⟨.null, .bool _, .bool _, .float trivial, .float trivial, .float trivial, by simp⟩
  obtain ⟨⟨word, w⟩, hmem, h⟩ := List.exists_of_findSome?_eq_some h
  obtain ⟨rest', -, h⟩ := Option.map_eq_some_iff.mp h
  cases h
  exact hwords _ hmem

lemma datum_number (h : number? s = some (.ok v, rest)) : Datum v := by
  rw [number?.eq_def] at h
  obtain ⟨⟨whole, s'⟩, -, h⟩ := Option.bind_eq_some_iff.mp h
  dsimp only at h
  split at h
  · split at h
    · next hn =>
      cases h
      refine .int (Numeral.length_of_wholeValue (fun d hd => ?_) hn)
      obtain ⟨c, -, hc⟩ := List.mem_filterMap.mp hd
      exact Text.digitValue_lt hc
    · cases h
  · cases h
    exact .float (proper_ofDecimal _ _ _)

lemma datum_scalar (h : scalar s = .ok (v, rest)) : Datum v := by
  rw [scalar] at h
  split at h
  · next r hr =>
    cases h
    exact datum_word hr
  · split at h
    · next hr =>
      cases h
      exact datum_number hr
    · cases h
    · cases h

end Scalars

section Members

lemma nodup_keys_put {name : String} {es : Table} (h : (Entries.keys es).Nodup) (v : Value) :
    (Entries.keys (es.put (.str name) v)).Nodup := by
  induction es with
  | nil => exact List.nodup_singleton _
  | cons e es ih =>
    obtain ⟨k, w⟩ := e
    obtain ⟨hk, hes⟩ := List.nodup_cons.mp h
    rw [Entries.put]
    split
    · exact h
    · next hne =>
      refine List.nodup_cons.mpr ⟨fun hmem => ?_, ih hes⟩
      obtain ⟨d, hd, hkey⟩ := List.mem_map.mp hmem
      rcases (Entries.mem_put hd).1 with hname | ⟨c, hc, hname⟩
      · exact hne (Value.beq_str_iff.mpr (hkey.symm.trans hname))
      · exact hk (hkey ▸ hname ▸ List.mem_map_of_mem hc)

lemma nodup_keys_ofPairs {es : List (Value × Value)} (hk : ∀ e ∈ es, ∃ name, e.1 = .str name) :
    (Entries.keys (Entries.ofPairs es)).Nodup := by
  induction es using List.reverseRecOn with
  | nil => exact List.nodup_nil
  | append_singleton es e ih =>
    obtain ⟨name, hname⟩ := hk e (by simp)
    rw [Entries.ofPairs_append_singleton, hname]
    exact nodup_keys_put (ih fun d hd => hk d (List.mem_append_left _ hd)) e.2

lemma datum_ofPairs {es : List (Value × Value)}
    (h : ∀ e ∈ es, (∃ name, e.1 = .str name) ∧ Datum e.2) :
    Datum (.map (Entries.ofPairs es)) := by
  refine .map (fun e he => ?_) (nodup_keys_ofPairs fun e he => (h e he).1) fun e he => ?_
  · obtain ⟨⟨d, hd, hk⟩, -⟩ := Entries.mem_ofPairs he
    exact hk ▸ (h d hd).1
  · obtain ⟨-, d, hd, hv⟩ := Entries.mem_ofPairs he
    exact hv ▸ (h d hd).2

end Members

mutual

lemma datum_readValue (fuel : Nat) {s rest : List Char} {v : Value}
    (h : readValue fuel s = .ok (v, rest)) : Datum v := by
  match fuel with
  | 0 => cases h
  | fuel + 1 =>
    rw [readValue.eq_def] at h
    dsimp only at h
    split at h
    · obtain ⟨⟨text, _⟩, -, h⟩ := bind_eq_ok.mp h
      cases h
      exact .str text
    · split at h
      · cases h
        exact .list (by simp)
      · obtain ⟨⟨vs, _⟩, hvs, h⟩ := bind_eq_ok.mp h
        cases h
        exact .list (data_readItems fuel hvs)
    · split at h
      · cases h
        exact @datum_ofPairs [] (by simp)
      · obtain ⟨⟨es, _⟩, hes, h⟩ := bind_eq_ok.mp h
        cases h
        exact datum_ofPairs (data_readMembers fuel hes)
    · exact datum_scalar h

lemma data_readItems (fuel : Nat) {s rest : List Char} {vs : List Value}
    (h : readItems fuel s = .ok (vs, rest)) : ∀ v ∈ vs, Datum v := by
  match fuel with
  | 0 => cases h
  | fuel + 1 =>
    rw [readItems] at h
    obtain ⟨⟨v, rest'⟩, hv, h⟩ := bind_eq_ok.mp h
    have hfirst := datum_readValue fuel hv
    dsimp only at h
    split at h
    · cases h
      exact List.forall_mem_singleton.mpr hfirst
    · obtain ⟨⟨ws, _⟩, hws, h⟩ := bind_eq_ok.mp h
      cases h
      exact List.forall_mem_cons.mpr ⟨hfirst, data_readItems fuel hws⟩
    · cases h

lemma data_readMembers (fuel : Nat) {s rest : List Char} {es : List (Value × Value)}
    (h : readMembers fuel s = .ok (es, rest)) :
    ∀ e ∈ es, (∃ name, e.1 = .str name) ∧ Datum e.2 := by
  match fuel with
  | 0 => cases h
  | fuel + 1 =>
    rw [readMembers.eq_def] at h
    dsimp only at h
    split at h
    · obtain ⟨⟨name, _⟩, -, h⟩ := bind_eq_ok.mp h
      dsimp only at h
      split at h
      · obtain ⟨⟨v, _⟩, hv, h⟩ := bind_eq_ok.mp h
        have hfirst := datum_readValue fuel hv
        dsimp only at h
        split at h
        · cases h
          exact List.forall_mem_singleton.mpr ⟨⟨name, rfl⟩, hfirst⟩
        · obtain ⟨⟨ds, _⟩, hds, h⟩ := bind_eq_ok.mp h
          cases h
          exact List.forall_mem_cons.mpr ⟨⟨⟨name, rfl⟩, hfirst⟩, data_readMembers fuel hds⟩
        · cases h
      · cases h
    · cases h

end

theorem datum_read {text : String} {v : Value} (h : read text = .ok v) : Datum v := by
  rw [read] at h
  split at h
  · next w hw =>
    cases h
    rw [readText.eq_def] at hw
    split at hw
    · cases hw
    · obtain ⟨⟨w, _⟩, hvalue, hw⟩ := bind_eq_ok.mp hw
      dsimp only at hw
      split at hw
      · cases hw
        exact datum_readValue _ hvalue
      · cases hw
  · cases h
  · cases h

lemma document_read {text : String} {v : Value} (h : read text = .ok v) : Document v :=
  (datum_read h).document

end HttpTemplate.Json
