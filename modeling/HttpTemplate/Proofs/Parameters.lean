import HttpTemplate.Proofs.Resolution

/-! A template takes from its arguments what they hold under the names of its parameters, and
nothing else. Every variable has its name among the parameters, though they list each name once. -/

namespace HttpTemplate.Parameters

open Faults Resolution Template

section Agreement

variable {a b : Arguments}

lemma resolve_congr {v : Variable} (h : a.lookup v.name = b.lookup v.name) :
    v.resolve a = v.resolve b := by
  simp only [Variable.resolve, h]

lemma renderToken_congr {t : Token} (h : ∀ v, t.variable? = some v → v.resolve a = v.resolve b) :
    Leaf.renderToken a t = Leaf.renderToken b t := by
  cases t with
  | literal text => rfl
  | placeholder v =>
    have hv := h v rfl
    simp only [Leaf.renderToken, hv]

lemma renderTokens_congr {ts : List Token}
    (h : ∀ v ∈ ts.filterMap Token.variable?, v.resolve a = v.resolve b) :
    Leaf.renderTokens a ts = Leaf.renderTokens b ts := by
  induction ts with
  | nil => rfl
  | cons t ts ih =>
    have ht : Leaf.renderToken a t = Leaf.renderToken b t := by
      apply renderToken_congr
      intro v hv
      exact h v (List.mem_filterMap.mpr ⟨t, List.mem_cons_self, hv⟩)
    have hts : Leaf.renderTokens a ts = Leaf.renderTokens b ts := by
      apply ih
      intro v hv
      obtain ⟨u, hu, huv⟩ := List.mem_filterMap.mp hv
      exact h v (List.mem_filterMap.mpr ⟨u, List.mem_cons_of_mem _ hu, huv⟩)
    simp only [Leaf.renderTokens, ht, hts]

lemma leaf_congr {l : Leaf} (h : ∀ v ∈ l.occurrences, v.resolve a = v.resolve b) :
    l.substitute a = l.substitute b := by
  simp only [Leaf.substitute]
  split
  · next v hv =>
    apply h
    simp [Leaf.occurrences, single_eq_some hv, Token.variable?]
  · rw [renderTokens_congr h]

mutual

lemma substitute_congr (n : Node) (h : ∀ v ∈ n.occurrences, v.resolve a = v.resolve b) :
    n.substitute a = n.substitute b := by
  match n with
  | .leaf l => exact leaf_congr h
  | .map entries =>
    rw [Node.substitute, Node.substitute, substituteEntries_congr entries h]
  | .list items =>
    rw [Node.substitute, Node.substitute, substituteAll_congr items h]
  | .scalar _ => rfl

lemma substituteAll_congr (items : List Node)
    (h : ∀ v ∈ Node.occurrencesInAll items, v.resolve a = v.resolve b) :
    Node.substituteAll a items = Node.substituteAll b items := by
  match items with
  | [] => rfl
  | n :: ns =>
    rw [Node.occurrencesInAll] at h
    have hn := substitute_congr n fun v hv => h v (List.mem_append_left _ hv)
    have hns := substituteAll_congr ns fun v hv => h v (List.mem_append_right _ hv)
    rw [Node.substituteAll, Node.substituteAll, hn, hns]

lemma substituteEntries_congr (entries : List (Value × Node))
    (h : ∀ v ∈ Node.occurrencesInEntries entries, v.resolve a = v.resolve b) :
    Node.substituteEntries a entries = Node.substituteEntries b entries := by
  match entries with
  | [] => rfl
  | (_, n) :: es =>
    rw [Node.occurrencesInEntries] at h
    have hn := substitute_congr n fun v hv => h v (List.mem_append_left _ hv)
    have hes := substituteEntries_congr es fun v hv => h v (List.mem_append_right _ hv)
    rw [Node.substituteEntries, Node.substituteEntries, hn, hes]

end

lemma template_congr {t : Template} (h : ∀ v ∈ t.occurrences, v.resolve a = v.resolve b) :
    t.resolve a = t.resolve b := by
  simp only [Template.occurrences, List.mem_append, or_imp, forall_and] at h
  obtain ⟨⟨⟨hurl, hheaders⟩, hquery⟩, hbody⟩ := h
  simp only [Template.resolve, leaf_congr hurl, substituteEntries_congr _ hheaders,
    substituteEntries_congr _ hquery, substitute_congr _ hbody]

end Agreement

lemma name_mem_firstPerName {v : Variable} {vs : List Variable} (seen : List String) (hv : v ∈ vs) :
    v.name ∈ seen ∨ ∃ w ∈ firstPerName seen vs, w.name = v.name := by
  induction vs generalizing seen with
  | nil => cases hv
  | cons u vs ih =>
    rw [firstPerName]
    by_cases hu : u.name ∈ seen
    · rw [if_pos (List.contains_iff_mem.mpr hu)]
      rcases List.mem_cons.mp hv with rfl | hv
      · exact .inl hu
      · exact ih seen hv
    · rw [if_neg (mt List.contains_iff_mem.mp hu)]
      rcases List.mem_cons.mp hv with rfl | hv
      · exact .inr ⟨v, List.mem_cons_self, rfl⟩
      · rcases ih (u.name :: seen) hv with h | ⟨w, hw, hn⟩
        · rcases List.mem_cons.mp h with h | h
          · exact .inr ⟨u, List.mem_cons_self, h.symm⟩
          · exact .inl h
        · exact .inr ⟨w, List.mem_cons_of_mem _ hw, hn⟩

lemma firstPerName_sublist (seen : List String) (vs : List Variable) :
    (firstPerName seen vs).Sublist vs := by
  induction vs generalizing seen with
  | nil => exact .slnil
  | cons v vs ih =>
    rw [firstPerName]
    split
    · exact (ih seen).cons v
    · exact (ih (v.name :: seen)).cons_cons v

lemma name_notMem_of_firstPerName {seen : List String} {v : Variable} {vs : List Variable}
    (h : v ∈ firstPerName seen vs) : v.name ∉ seen := by
  induction vs generalizing seen with
  | nil => cases h
  | cons u vs ih =>
    rw [firstPerName] at h
    split at h
    · exact ih h
    · next hu =>
      rcases List.mem_cons.mp h with rfl | h
      · simpa using hu
      · exact fun hseen => ih h (List.mem_cons_of_mem _ hseen)

lemma nodup_names_firstPerName (seen : List String) (vs : List Variable) :
    ((firstPerName seen vs).map (·.name)).Nodup := by
  induction vs generalizing seen with
  | nil => exact List.nodup_nil
  | cons v vs ih =>
    rw [firstPerName]
    split
    · exact ih seen
    · rw [List.map_cons, List.nodup_cons]
      refine ⟨fun hmem => ?_, ih (v.name :: seen)⟩
      obtain ⟨w, hw, hname⟩ := List.mem_map.mp hmem
      exact name_notMem_of_firstPerName hw (hname ▸ List.mem_cons_self)

lemma forall_name_of_parameters {t : Template} {p : String → Prop}
    (h : ∀ w ∈ t.parameters, p w.name) {v : Variable} (hv : v ∈ t.occurrences) : p v.name := by
  rcases name_mem_firstPerName [] hv with h' | ⟨w, hw, hn⟩
  · cases h'
  · exact hn ▸ h w hw

section Tables

variable {es ds : Table}

lemma lookup_map (es : Table) (name : String) :
    Value.lookup (.map es) name = .ok (Entries.get? (.str name) es) := rfl

lemma get?_put_str (name : String) (w : Value) (es : Table) :
    Entries.get? (.str name) (Entries.put (.str name) w es) = some w := by
  induction es with
  | nil => simp [Entries.get?]
  | cons e es ih =>
    obtain ⟨k, x⟩ := e
    by_cases hk : (k == .str name) = true
    · simp [Entries.put, Entries.get?, hk]
    · simp [Entries.put, Entries.get?, hk, ih]

lemma get?_put_of_ne_str {k : Value} {name : String} (h : k ≠ .str name) (w : Value) (es : Table) :
    Entries.get? (.str name) (Entries.put k w es) = Entries.get? (.str name) es := by
  have hk : (k == .str name) = false := by
    rw [Bool.eq_false_iff, ne_eq, Value.beq_str_iff]
    exact h
  induction es with
  | nil => simp [Entries.get?, hk]
  | cons e es ih =>
    obtain ⟨j, v⟩ := e
    by_cases hj : (j == k) = true
    · -- the value is replaced, under a key that is not the name
      have hne : (j == .str name) = false := by
        rw [Bool.eq_false_iff, ne_eq, Value.beq_str_iff]
        rintro rfl
        exact h (Value.str_beq_iff.mp hj)
      simp [Entries.put, Entries.get?, hj, hne]
    · simp [Entries.put, Entries.get?, hj, ih]

lemma build_congr_resolve [Idna] {t : Template}
    (h : ∀ v ∈ t.occurrences, v.resolve (.map es) = v.resolve (.map ds)) :
    t.build (.map es) = t.build (.map ds) := by
  have hresolve : t.resolve (given (.map es)) = t.resolve (given (.map ds)) := template_congr h
  simp only [Template.build, hresolve]

lemma build_congr [Idna] {t : Template}
    (h : ∀ v ∈ t.parameters, Entries.get? (.str v.name) es = Entries.get? (.str v.name) ds) :
    t.build (.map es) = t.build (.map ds) := by
  apply build_congr_resolve
  intro v hv
  apply resolve_congr
  have hname := forall_name_of_parameters (p := fun name =>
    Entries.get? (.str name) es = Entries.get? (.str name) ds) h hv
  rw [lookup_map, lookup_map, hname]

end Tables

inductive IsCoercionFault : VariableFault → Prop
  | uncoercible (name : String) (value : Value) (kind : Kind) :
      IsCoercionFault (.uncoercible name value kind)
  | oversized (digits : Nat) : IsCoercionFault (.oversized digits)
  | unwritten : IsCoercionFault (.misuse .oversized)

section Missing

variable {v : Variable} {value : Value} {f : VariableFault}

lemma finite_fault {x : Binary64} (h : v.finite value x = .error f) : IsCoercionFault f := by
  rw [Variable.finite] at h
  split at h
  · cases h
  · cases h
    exact .uncoercible ..

lemma coerceText_fault {text : List Char} (h : v.coerceText value text = .error f) :
    IsCoercionFault f := by
  rw [Variable.coerceText] at h
  split at h
  · split at h
    · cases h
    · cases h
      exact .oversized _
    · cases h
      exact .uncoercible ..
  · split at h
    · exact finite_fault h
    · cases h
      exact .uncoercible ..

lemma coerceNumber_fault (h : v.coerceNumber value = .error f) : IsCoercionFault f := by
  rw [Variable.coerceNumber.eq_def] at h
  split at h
  · cases h
    exact .uncoercible ..
  · cases h
  · exact finite_fault h
  · rw [Value.written_bind] at h
    split at h
    · exact coerceText_fault h
    · cases h
      exact .unwritten

lemma coerceBoolean_fault (h : Variable.coerceBoolean value = .error f) : IsCoercionFault f := by
  rw [Variable.coerceBoolean.eq_def] at h
  split at h
  · cases h
  · rw [Value.written_bind] at h
    split at h
    · cases h
    · cases h
      exact .unwritten

lemma coerce_fault (h : v.coerce value = .error f) : IsCoercionFault f := by
  rw [Variable.coerce] at h
  split at h
  · cases h
  · split at h
    · exact coerceNumber_fault h
    · exact coerceBoolean_fault h
    · cases h

lemma resolve_of_get? {es : Table} {x : Value} (h : Entries.get? (.str v.name) es = some x) :
    v.resolve (.map es) = v.coerce x := by
  simp only [Variable.resolve, lookup_map, h]

lemma resolve_cases (v : Variable) (es : Table) :
    (∃ x, Entries.get? (.str v.name) es = some x ∧ v.resolve (.map es) = v.coerce x) ∨
      (∃ text, v.resolve (.map es) = v.coerce (.str text)) ∨
      v.resolve (.map es) = .ok (.str "") ∨ v.resolve (.map es) = .error (.missing v.name) := by
  cases h : Entries.get? (.str v.name) es with
  | some x => exact .inl ⟨x, rfl, resolve_of_get? h⟩
  | none =>
    cases hdefault : v.default with
    | some text =>
      exact .inr (.inl ⟨text, by simp only [Variable.resolve, lookup_map, h, hdefault]⟩)
    | none =>
      simp only [Variable.resolve, lookup_map, h, hdefault]
      split
      · exact .inr (.inr (.inr rfl))
      · split
        · exact .inr (.inr (.inl rfl))
        · exact .inr (.inl ⟨_, rfl⟩)

lemma resolve_ne_missing {es : Table} (h : (Entries.get? (.str v.name) es).isSome)
    (name : String) : v.resolve (.map es) ≠ .error (.missing name) := by
  obtain ⟨x, hx⟩ := Option.isSome_iff_exists.mp h
  rw [resolve_of_get? hx]
  intro hmissing
  cases coerce_fault hmissing

lemma resolve_of_build_fault [Idna] {t : Template} {arguments : Arguments} {f : VariableFault}
    (h : t.build arguments = .error (.placeholder f)) :
    ∃ v ∈ t.occurrences, v.resolve (given arguments) = .error f := by
  cases hres : t.resolve (given arguments) with
  | ok parts =>
    rw [build_of_resolve hres] at h
    exact (assemble_fault h).elim
  | error g =>
    rw [build_of_fault hres] at h
    cases h
    have hfirst := faultOf_resolve (given arguments) t
    rw [hres, faultOf_error] at hfirst
    obtain ⟨before, v, after, hs, -, hv⟩ := firstFault_eq_some _ hfirst.symm
    exact ⟨v, by simp [hs], hv⟩

end Missing

theorem build_reads_parameters_only [Idna] (t : Template) :
    (∀ es ds : Table,
      (∀ v ∈ t.parameters, Entries.get? (.str v.name) es = Entries.get? (.str v.name) ds) →
        t.build (.map es) = t.build (.map ds)) ∧
    (∀ (es : Table) (key value : Value), (∀ v ∈ t.parameters, key ≠ .str v.name) →
      t.build (.map (Entries.put key value es)) = t.build (.map es)) ∧
    ∀ es : Table, (∀ v ∈ t.parameters, (Entries.get? (.str v.name) es).isSome) →
      ∀ name, t.build (.map es) ≠ .error (.placeholder (.missing name)) := by
  refine ⟨fun es ds h => build_congr h, ?_, ?_⟩
  · intro es key value h
    apply build_congr
    intro v hv
    exact get?_put_of_ne_str (h v hv) value es
  · intro es h name hbuild
    obtain ⟨v, hv, hmissing⟩ := resolve_of_build_fault hbuild
    have hsome := forall_name_of_parameters
      (p := fun name => (Entries.get? (.str name) es).isSome) h hv
    exact resolve_ne_missing hsome name hmissing

def search : Template where
  method := "GET"
  url := .ofText "http://a.test/{!id}"
  query := Node.compileEntries [(.str "q", .str "{q=all} in {id}")]
  settings := { timeout := .int 10 }

lemma parameters_search :
    search.parameters = [{ name := "id", required := true }, { name := "q", default := "all" }] := by
  decide +kernel

open scoped Idna in
theorem search_reads_id_and_q :
    let es : Table := [(.str "id", .int 7), (.str "q", .str "x")]
    let ds : Table := [(.null, .int 1), (.str "q", .str "x"), (.str "page", .int 2), (.str "id", .int 7)]
    ((∀ v ∈ search.parameters, Entries.get? (.str v.name) es = Entries.get? (.str v.name) ds) ∧
      search.build (.map es) = search.build (.map ds)) ∧
    ((∀ v ∈ search.parameters, Value.str "page" ≠ .str v.name) ∧
      search.build (.map (Entries.put (.str "page") (.int 2) es)) = search.build (.map es)) ∧
    (∀ v ∈ search.parameters, (Entries.get? (.str v.name) es).isSome) ∧
      ∀ name, search.build (.map es) ≠ .error (.placeholder (.missing name)) := by
  intro es ds
  obtain ⟨hagree, hother, hcomplete⟩ := build_reads_parameters_only search
  have hsame : ∀ v ∈ search.parameters,
      Entries.get? (.str v.name) es = Entries.get? (.str v.name) ds := by
    rw [parameters_search]
    rintro v (_ | ⟨_, _ | ⟨_, ⟨⟩⟩⟩) <;> rfl
  have hpage : ∀ v ∈ search.parameters, Value.str "page" ≠ .str v.name := by
    rw [parameters_search]
    rintro v (_ | ⟨_, _ | ⟨_, ⟨⟩⟩⟩) <;> simp
  have hsome : ∀ v ∈ search.parameters, (Entries.get? (.str v.name) es).isSome := by
    rw [parameters_search]
    rintro v (_ | ⟨_, _ | ⟨_, ⟨⟩⟩⟩) <;> rfl
  exact ⟨⟨hsame, hagree es ds hsame⟩, ⟨hpage, hother es _ _ hpage⟩, hsome, hcomplete es hsome⟩

end HttpTemplate.Parameters
