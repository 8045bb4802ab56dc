import HttpTemplate.Entries
import Mathlib.Data.List.Induction
import Mathlib.Data.List.Nodup

/-! What a list of pairs leaves in a map: its keys in the order of their first use, and under each
key the last value, or all values when they are grouped. -/

namespace HttpTemplate.Entries

variable {κ α : Type}

@[simp] lemma keys_nil : keys ([] : Entries κ α) = [] := rfl

@[simp] lemma keys_cons (e : κ × α) (m : Entries κ α) : keys (e :: m) = e.1 :: keys m := rfl

variable [BEq κ]

def valuesOf (k : κ) (pairs : List (κ × α)) : List α := (pairs.filter (·.1 == k)).map (·.2)

@[simp] lemma valuesOf_nil (k : κ) : valuesOf k ([] : List (κ × α)) = [] := rfl

lemma valuesOf_append (k : κ) (ps qs : List (κ × α)) :
    valuesOf k (ps ++ qs) = valuesOf k ps ++ valuesOf k qs := by
  simp [valuesOf]

lemma ofPairs_append_singleton (pairs : List (κ × α)) (e : κ × α) :
    ofPairs (pairs ++ [e]) = put e.1 e.2 (ofPairs pairs) := by
  simp [ofPairs, putAll]

lemma putAll_append_singleton (m : Entries κ α) (pairs : List (κ × α)) (e : κ × α) :
    putAll m (pairs ++ [e]) = put e.1 e.2 (putAll m pairs) := by
  simp [putAll]

lemma group_append_singleton (pairs : List (κ × α)) (e : κ × α) :
    group (pairs ++ [e]) = put e.1 ((get? e.1 (group pairs)).getD [] ++ [e.2]) (group pairs) := by
  simp [group]

section Apart

variable {k : κ} {v : α} {m pairs : Entries κ α}

lemma mem_ofPairs {e : κ × α} (h : e ∈ ofPairs pairs) :
    (∃ d ∈ pairs, e.1 = d.1) ∧ ∃ d ∈ pairs, e.2 = d.2 := by
  induction pairs using List.reverseRecOn generalizing e with
  | nil => cases h
  | append_singleton pairs c ih =>
    have hlast : c ∈ pairs ++ [c] := List.mem_append_right _ List.mem_cons_self
    rw [ofPairs_append_singleton] at h
    obtain ⟨hk, hv⟩ := mem_put h
    refine ⟨?_, ?_⟩
    · rcases hk with hk | ⟨b, hb, hk⟩
      · exact ⟨c, hlast, hk⟩
      · obtain ⟨⟨d, hd, hkey⟩, -⟩ := ih hb
        exact ⟨d, List.mem_append_left _ hd, hk.trans hkey⟩
    · rcases hv with hv | he
      · exact ⟨c, hlast, hv⟩
      · obtain ⟨-, d, hd, hvalue⟩ := ih he
        exact ⟨d, List.mem_append_left _ hd, hvalue⟩

lemma get?_append (k : κ) (m n : Entries κ α) : get? k (m ++ n) = (get? k m).or (get? k n) := by
  induction m with
  | nil => rfl
  | cons e m ih =>
    obtain ⟨j, w⟩ := e
    rw [List.cons_append, get?, get?]
    split
    · rfl
    · exact ih

lemma put_of_forall_ne (h : ∀ j ∈ keys m, (j == k) = false) : put k v m = m ++ [(k, v)] := by
  induction m with
  | nil => rfl
  | cons e m ih =>
    obtain ⟨j, w⟩ := e
    have hj : (j == k) = false := h j List.mem_cons_self
    have hm : put k v m = m ++ [(k, v)] := ih fun i hi => h i (List.mem_cons_of_mem j hi)
    simp [put, hj, hm]

lemma get?_of_forall_ne (h : ∀ j ∈ keys m, (j == k) = false) : get? k m = none := by
  induction m with
  | nil => rfl
  | cons e m ih =>
    obtain ⟨j, w⟩ := e
    have hj : (j == k) = false := h j List.mem_cons_self
    simp [get?, hj, ih fun i hi => h i (List.mem_cons_of_mem j hi)]

lemma ofPairs_of_pairwise (h : pairs.Pairwise fun d e => (d.1 == e.1) = false) :
    ofPairs pairs = pairs := by
  induction pairs using List.reverseRecOn with
  | nil => rfl
  | append_singleton pairs e ih =>
    obtain ⟨hpairs, -, hlast⟩ := List.pairwise_append.mp h
    rw [ofPairs_append_singleton, ih hpairs]
    apply put_of_forall_ne
    intro j hj
    obtain ⟨d, hd, rfl⟩ := List.mem_map.mp hj
    exact hlast d hd e (List.mem_singleton.mpr rfl)

end Apart

variable [LawfulBEq κ]

section Writing

variable {k j : κ} {v : α} {m : Entries κ α}

lemma get?_eq_none_iff : get? k m = none ↔ k ∉ keys m := by
  induction m with
  | nil => simp
  | cons e m ih =>
    obtain ⟨j, w⟩ := e
    by_cases hj : j = k
    · simp [get?, hj]
    · simp [get?, hj, ih, Ne.symm hj]

lemma put_of_notMem (h : k ∉ keys m) : put k v m = m ++ [(k, v)] :=
  put_of_forall_ne fun _ hj => beq_false_of_ne (ne_of_mem_of_not_mem hj h)

lemma keys_put_of_mem (h : k ∈ keys m) : keys (put k v m) = keys m := by
  induction m with
  | nil => cases h
  | cons e m ih =>
    obtain ⟨j, w⟩ := e
    by_cases hj : j = k
    · simp [put, hj]
    · have hm : k ∈ keys m := (List.mem_cons.mp h).resolve_left (Ne.symm hj)
      simp [put, hj, ih hm]

lemma keys_put_of_notMem (h : k ∉ keys m) : keys (put k v m) = keys m ++ [k] := by
  rw [put_of_notMem h]
  simp [keys]

lemma nodup_keys_put (h : (keys m).Nodup) : (keys (put k v m)).Nodup := by
  by_cases hk : k ∈ keys m
  · rwa [keys_put_of_mem hk]
  · rw [keys_put_of_notMem hk]
    exact List.Nodup.append h (List.nodup_singleton k) (by simpa using hk)

lemma get?_put : get? j (put k v m) = if j == k then some v else get? j m := by
  split
  · next h => exact eq_of_beq h ▸ get?_put_self k v m
  · next h => exact get?_put_of_ne (ne_of_beq_false (Bool.eq_false_iff.mpr h)) v m

end Writing

section Values

variable {k : κ} {pairs : List (κ × α)}

lemma valuesOf_singleton_self (v : α) : valuesOf k [(k, v)] = [v] := by
  simp [valuesOf]

lemma valuesOf_singleton_of_ne {j : κ} (h : j ≠ k) (v : α) : valuesOf k [(j, v)] = [] := by
  simp [valuesOf, h]

lemma valuesOf_eq_nil_iff : valuesOf k pairs = [] ↔ k ∉ pairs.map (·.1) := by
  simp only [valuesOf, List.map_eq_nil_iff, List.filter_eq_nil_iff, beq_iff_eq, List.mem_map,
    not_exists, not_and]

lemma getLast?_valuesOf {v : α} : (valuesOf k pairs).getLast? = some v ↔
    ∃ before after, pairs = before ++ (k, v) :: after ∧ k ∉ after.map (·.1) := by
  induction pairs with
  | nil => simp
  | cons e pairs ih =>
    obtain ⟨j, w⟩ := e
    have hcons : (valuesOf k ((j, w) :: pairs)).getLast? =
        (valuesOf k pairs).getLast?.or (valuesOf k [(j, w)]).getLast? := by
      rw [← List.singleton_append, valuesOf_append, List.getLast?_append]
    rw [hcons, Option.or_eq_some_iff, ih]
    constructor
    · rintro (⟨before, after, rfl, hafter⟩ | ⟨hnone, hfirst⟩)
      · exact ⟨(j, w) :: before, after, rfl, hafter⟩
      · rw [List.getLast?_eq_none_iff, valuesOf_eq_nil_iff] at hnone
        by_cases hj : j = k
        · subst hj
          rw [valuesOf_singleton_self] at hfirst
          cases hfirst
          exact ⟨[], pairs, rfl, hnone⟩
        · rw [valuesOf_singleton_of_ne hj] at hfirst
          cases hfirst
    · rintro ⟨_ | ⟨e, before⟩, after, heq, hafter⟩
      · cases heq
        refine .inr ⟨?_, by rw [valuesOf_singleton_self]; rfl⟩
        rwa [List.getLast?_eq_none_iff, valuesOf_eq_nil_iff]
      · cases heq
        exact .inl ⟨before, after, rfl, hafter⟩

end Values

section Pairs

variable {k : κ} {pairs : List (κ × α)}

lemma get?_putAll (m : Entries κ α) (pairs : List (κ × α)) (k : κ) :
    get? k (putAll m pairs) = (valuesOf k pairs).getLast?.or (get? k m) := by
  induction pairs using List.reverseRecOn with
  | nil => rfl
  | append_singleton pairs e ih =>
    obtain ⟨j, v⟩ := e
    rw [putAll_append_singleton, get?_put, valuesOf_append]
    by_cases h : k = j
    · subst h
      simp [valuesOf_singleton_self]
    · simp [valuesOf_singleton_of_ne (Ne.symm h), h, ih]

lemma get?_ofPairs (pairs : List (κ × α)) (k : κ) :
    get? k (ofPairs pairs) = (valuesOf k pairs).getLast? := by
  rw [ofPairs, get?_putAll, get?_nil, Option.or_none]

lemma keys_ofPairs (pairs : List (κ × α)) :
    keys (ofPairs pairs) = (pairs.map (·.1)).eraseDups := by
  induction pairs using List.reverseRecOn with
  | nil => rfl
  | append_singleton pairs e ih =>
    rw [ofPairs_append_singleton, List.map_append, List.eraseDups_append]
    by_cases h : e.1 ∈ keys (ofPairs pairs)
    · have hmem : e.1 ∈ pairs.map (·.1) := by rwa [ih, List.mem_eraseDups] at h
      rw [keys_put_of_mem h, ih]
      simp [List.removeAll, hmem]
    · have hmem : e.1 ∉ pairs.map (·.1) := by rwa [ih, List.mem_eraseDups] at h
      rw [keys_put_of_notMem h, ih]
      simp [List.removeAll, hmem, List.eraseDups_cons]

lemma nodup_keys_putAll {m : Entries κ α} (h : (keys m).Nodup) (pairs : List (κ × α)) :
    (keys (putAll m pairs)).Nodup := by
  induction pairs using List.reverseRecOn with
  | nil => exact h
  | append_singleton pairs e ih =>
    rw [putAll_append_singleton]
    exact nodup_keys_put ih

lemma ofPairs_eq_self (h : (pairs.map (·.1)).Nodup) : ofPairs pairs = pairs := by
  apply ofPairs_of_pairwise
  exact (List.pairwise_map.mp h).imp fun hne => beq_false_of_ne hne

lemma get?_putAll_of_nodup (m : Entries κ α) {new : Entries κ α} (h : (keys new).Nodup) (k : κ) :
    get? k (putAll m new) = (get? k new).or (get? k m) := by
  have hself : ofPairs new = new := ofPairs_eq_self h
  have hlast : (valuesOf k new).getLast? = get? k new := by rw [← get?_ofPairs, hself]
  rw [get?_putAll, hlast]

end Pairs

section Groups

variable {k : κ}

lemma get?_group (pairs : List (κ × α)) (k : κ) :
    get? k (group pairs) = if valuesOf k pairs = [] then none else some (valuesOf k pairs) := by
  induction pairs using List.reverseRecOn with
  | nil => rfl
  | append_singleton pairs e ih =>
    obtain ⟨j, v⟩ := e
    rw [group_append_singleton, get?_put, valuesOf_append]
    by_cases h : k = j
    · subst h
      rw [ih, valuesOf_singleton_self]
      by_cases hv : valuesOf k pairs = [] <;> simp [hv]
    · simp [valuesOf_singleton_of_ne (Ne.symm h), h, ih]

lemma nodup_keys_group (pairs : List (κ × α)) : (keys (group pairs)).Nodup := by
  induction pairs using List.reverseRecOn with
  | nil => exact List.nodup_nil
  | append_singleton pairs e ih =>
    rw [group_append_singleton]
    exact nodup_keys_put ih

lemma valuesOf_ungroup {groups : Entries κ (List α)} (h : (keys groups).Nodup) (k : κ) :
    valuesOf k (ungroup groups) = (get? k groups).getD [] := by
  induction groups with
  | nil => rfl
  | cons e groups ih =>
    obtain ⟨j, vs⟩ := e
    obtain ⟨hj, hgroups⟩ := List.nodup_cons.mp h
    have hcons : ungroup ((j, vs) :: groups) = vs.map (j, ·) ++ ungroup groups := rfl
    rw [hcons, valuesOf_append, ih hgroups]
    by_cases hk : j = k
    · subst hk
      have hnone : get? j groups = none := get?_eq_none_iff.mpr hj
      simp [valuesOf, get?, hnone, List.filter_map, Function.comp_def]
    · simp [valuesOf, get?, hk, List.filter_map, Function.comp_def]

end Groups

end HttpTemplate.Entries
