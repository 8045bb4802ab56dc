/-!
Ordered maps as lists of entries. Writing to a key that is present keeps its place and replaces its
value; a new key goes to the end.
-/

namespace HttpTemplate

abbrev Entries (κ α : Type) := List (κ × α)

namespace Entries

variable {κ α β : Type}

def put [BEq κ] (k : κ) (v : α) : Entries κ α → Entries κ α
  | [] => [(k, v)]
  | (k', v') :: rest => if k' == k then (k', v) :: rest else (k', v') :: put k v rest

def putAll [BEq κ] (entries : Entries κ α) (new : Entries κ α) : Entries κ α :=
  new.foldl (fun m (k, v) => put k v m) entries

def ofPairs [BEq κ] (pairs : List (κ × α)) : Entries κ α := putAll [] pairs

def get? [BEq κ] (k : κ) : Entries κ α → Option α
  | [] => none
  | (k', v) :: rest => if k' == k then some v else get? k rest

def keys (entries : Entries κ α) : List κ := entries.map (·.1)

def group [BEq κ] (pairs : List (κ × α)) : Entries κ (List α) :=
  pairs.foldl (fun m (k, v) => put k ((get? k m).getD [] ++ [v]) m) []

def ungroup (groups : Entries κ (List α)) : List (κ × α) :=
  groups.flatMap fun (k, vs) => vs.map (k, ·)

@[simp] theorem get?_nil [BEq κ] (k : κ) : get? k ([] : Entries κ α) = none := rfl

@[simp] theorem put_nil [BEq κ] (k : κ) (v : α) : put k v [] = [(k, v)] := rfl

theorem get?_put_self [BEq κ] [LawfulBEq κ] (k : κ) (v : α) (m : Entries κ α) :
    get? k (put k v m) = some v := by
  induction m with
  | nil => simp [get?]
  | cons p rest ih =>
    obtain ⟨k', v'⟩ := p
    by_cases h : k' == k <;> simp [put, get?, h, ih]

theorem get?_put_of_ne [BEq κ] [LawfulBEq κ] {k j : κ} (hj : j ≠ k) (v : α) (m : Entries κ α) :
    get? j (put k v m) = get? j m := by
  induction m with
  | nil => simp [get?, Ne.symm hj]
  | cons p rest ih =>
    obtain ⟨k', v'⟩ := p
    by_cases h : k' = k
    · subst h
      simp [put, get?, Ne.symm hj]
    · simp [put, get?, h, ih]

theorem mem_put [BEq κ] {e : κ × α} {k : κ} {v : α} {m : Entries κ α} (h : e ∈ put k v m) :
    (e.1 = k ∨ ∃ d ∈ m, e.1 = d.1) ∧ (e.2 = v ∨ e ∈ m) := by
  induction m with
  | nil =>
    obtain rfl := List.mem_singleton.mp h
    exact ⟨.inl rfl, .inl rfl⟩
  | cons d m ih =>
    obtain ⟨k', v'⟩ := d
    rw [put] at h
    split at h
    · rcases List.mem_cons.mp h with rfl | h
      · exact ⟨.inr ⟨_, List.mem_cons_self .., rfl⟩, .inl rfl⟩
      · exact ⟨.inr ⟨e, List.mem_cons_of_mem _ h, rfl⟩, .inr (List.mem_cons_of_mem _ h)⟩
    · rcases List.mem_cons.mp h with rfl | h
      · exact ⟨.inr ⟨_, List.mem_cons_self .., rfl⟩, .inr (List.mem_cons_self ..)⟩
      · obtain ⟨hk, hv⟩ := ih h
        exact ⟨hk.imp_right fun ⟨d, hd, he⟩ => ⟨d, List.mem_cons_of_mem _ hd, he⟩,
          hv.imp_right (List.mem_cons_of_mem _)⟩

end Entries

end HttpTemplate
