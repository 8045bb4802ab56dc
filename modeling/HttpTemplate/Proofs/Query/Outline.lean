import HttpTemplate.Proofs.Query.Names
import Mathlib.Data.Prod.Basic

/-! What the pairs of a query tell of it. Two queries have the same pairs when they become the same
once nulls and empty containers are gone, scalars are lists of one and items are texts. -/

namespace HttpTemplate.Query

def shown (v : Value) : Value :=
  match fieldText v with
  | .ok text => .str text
  | .error _ => v

def isVacant : Value → Bool
  | .list [] | .map [] => true
  | _ => false

def shownItems (vs : List Value) : List Value := (vs.filter fun v => !v.isNull).map shown

mutual

/-- A value without what no pair tells: nulls and what is empty are gone, a tuple is a list and a scalar
a list of one, and items are their texts. -/
def condense : Value → Value
  | .null => .list []
  | .map es => .map (condenseEntries es)
  | .list vs | .tuple vs => .list (shownItems vs)
  | v => .list [shown v]

def condenseEntries : List (Value × Value) → List (Value × Value)
  | [] => []
  | (k, v) :: es =>
    if isVacant (condense v) then condenseEntries es else (k, condense v) :: condenseEntries es

end

inductive Condensed : Value → Prop
  | list {vs : List Value} : (∀ v ∈ vs, v ≠ .null) → Condensed (.list vs)
  | map {es : List (Value × Value)} : (es.map (·.1)).Nodup → (∀ e ∈ es, ∃ s, e.1 = .str s) →
      (∀ e ∈ es, isVacant e.2 = false) → (∀ e ∈ es, Condensed e.2) → Condensed (.map es)

/-- The fields of a value without their places in lists. -/
def outline (φ : Value → Value) (v : Value) : List (List String × Value) :=
  (fieldsOf v).map fun f => (f.path, φ f.value)

def below (key : String) (leaves : List (List String × Value)) : List (List String × Value) :=
  leaves.map (Prod.map (key :: ·) id)

section Outline

variable {v : Value} {vs : List Value} (φ : Value → Value)

lemma shown_ne_null (h : v ≠ .null) : shown v ≠ .null := by
  rw [shown]
  split
  · exact Value.noConfusion
  · exact h

lemma ne_null_of_mem_shownItems : ∀ w ∈ shownItems vs, w ≠ .null := by
  intro w hw
  obtain ⟨v, hv, rfl⟩ := List.mem_map.1 hw
  exact shown_ne_null (not_isNull_iff.1 (List.mem_filter.1 hv).2)

lemma outline_list (hv : v = .list vs ∨ v = .tuple vs) :
    outline φ v = (vs.filter fun v => !v.isNull).map fun v => ([], φ v) := by
  have hfields : fieldsOf v = fieldsOfItems vs := by
    obtain rfl | rfl := hv <;> rfl
  rw [outline, hfields, fieldsOfItems]
  nth_rewrite 2 [← List.zipIdx_map_fst 0 vs]
  rw [List.filter_map, List.map_map, List.map_map]
  rfl

lemma outline_list_of_ne_null (h : ∀ v ∈ vs, v ≠ .null) :
    outline id (.list vs) = vs.map fun v => ([], v) := by
  rw [outline_list id (.inl rfl), List.filter_eq_self.2]
  · rfl
  · exact fun v hv => not_isNull_iff.2 (h v hv)

lemma outline_map (es : List (Value × Value)) : outline φ (.map es) =
    es.flatMap fun e => below e.1.text (outline φ e.2) := by
  rw [outline, fieldsOf, fieldsIn_eq_flatMap, List.map_flatMap]
  simp only [outline, below, List.map_map]
  rfl

lemma outline_scalar (hnull : v ≠ .null) (hv : ¬ IsContainer v) : outline φ v = [([], φ v)] := by
  rw [outline, fieldsOf_scalar hnull hv]
  rfl

lemma condense_scalar (hnull : v ≠ .null) (hv : ¬ IsContainer v) : condense v = .list [shown v] := by
  cases v <;> first | rfl | exact absurd rfl hnull | exact absurd trivial hv

lemma outline_of_isVacant (h : isVacant v = true) : outline φ v = [] := by
  unfold isVacant at h
  split at h
  · rfl
  · rfl
  · contradiction

lemma condenseEntries_eq (es : List (Value × Value)) : condenseEntries es =
    (es.map fun e => (e.1, condense e.2)).filter fun e => !isVacant e.2 := by
  induction es with
  | nil => rfl
  | cons e es ih =>
    rw [condenseEntries, List.map_cons, List.filter_cons, ih]
    cases isVacant (condense e.2) <;> rfl

lemma outline_condense (h : WellNamed v) : outline id (condense v) = outline shown v := by
  induction h with
  | @map es _ _ _ ih =>
    rw [condense, outline_map, outline_map]
    clear * - ih
    induction es with
    | nil => rfl
    | cons e es ihes =>
      rw [List.forall_mem_cons] at ih
      rw [condenseEntries, List.flatMap_cons, ← ihes ih.2, ← ih.1]
      split
      · next hvacant => rw [outline_of_isVacant id hvacant, below, List.map_nil, List.nil_append]
      · rw [List.flatMap_cons]
  | @other v hmap =>
    rcases null_or_list_or_scalar hmap with rfl | ⟨vs, hvs⟩ | ⟨hnull, hv⟩
    · rfl
    · have hcondense : condense v = .list (shownItems vs) := by
        obtain rfl | rfl := hvs <;> rfl
      rw [hcondense, outline_list_of_ne_null ne_null_of_mem_shownItems, outline_list shown hvs,
        shownItems, List.map_map]
      rfl
    · rw [condense_scalar hnull hv, outline_scalar shown hnull hv, outline_list_of_ne_null]
      · rfl
      · simpa using shown_ne_null hnull

lemma condensed_condense (h : WellNamed v) : Condensed (condense v) := by
  induction h with
  | @map es hnodup hkeys _ ih =>
    rw [condense, condenseEntries_eq]
    have hmem : ∀ e ∈ (es.map fun e => (e.1, condense e.2)).filter fun e => !isVacant e.2,
        isVacant e.2 = false ∧ ∃ d ∈ es, (d.1, condense d.2) = e := by
      intro e he
      obtain ⟨he, hvacant⟩ := List.mem_filter.1 he
      exact ⟨by simpa using hvacant, List.mem_map.1 he⟩
    refine .map ?_ ?_ (fun e he => (hmem e he).1) ?_
    · refine List.Sublist.nodup (List.filter_sublist.map _) ?_
      rwa [List.map_map]
    · intro e he
      obtain ⟨-, d, hd, rfl⟩ := hmem e he
      obtain ⟨s, hs, -⟩ := hkeys d hd
      exact ⟨s, hs⟩
    · intro e he
      obtain ⟨-, d, hd, rfl⟩ := hmem e he
      exact ih d hd
  | other hmap =>
    rcases null_or_list_or_scalar hmap with rfl | ⟨vs, rfl | rfl⟩ | ⟨hnull, hv⟩
    · exact .list (by simp)
    · exact .list ne_null_of_mem_shownItems
    · exact .list ne_null_of_mem_shownItems
    · rw [condense_scalar hnull hv]
      exact .list (by simpa using shown_ne_null hnull)

lemma outline_ne_nil (h : Condensed v) (hvacant : isVacant v = false) : outline id v ≠ [] := by
  induction h with
  | @list vs hnull =>
    rw [outline_list_of_ne_null hnull]
    cases vs with
    | nil => contradiction
    | cons v vs => exact List.cons_ne_nil _ _
  | @map es _ _ hall _ ih =>
    cases es with
    | nil => contradiction
    | cons e es =>
      have hfirst := ih e List.mem_cons_self (hall e List.mem_cons_self)
      rw [outline_map, List.flatMap_cons]
      exact List.append_ne_nil_of_left_ne_nil (by simpa [below] using hfirst) _

end Outline

def startsWith (key : String) (leaf : List String × Value) : Bool := leaf.1.head? == some key

section Injective

variable {v w : Value} {es ds : List (Value × Value)} {key : String}

lemma outline_cons (key : String) (v : Value) (es : List (Value × Value)) :
    outline id (.map ((.str key, v) :: es)) = below key (outline id v) ++ outline id (.map es) := by
  rw [outline_map, List.flatMap_cons, outline_map]
  rfl

lemma below_injective (key : String) : Function.Injective (below key) :=
  List.map_injective_iff.2 (Function.Injective.prodMap List.cons_injective Function.injective_id)

lemma startsWith_of_mem_below {leaves : List (List String × Value)} :
    ∀ x ∈ below key leaves, startsWith key x = true := by
  intro x hx
  obtain ⟨y, -, rfl⟩ := List.mem_map.1 hx
  simp [startsWith]

lemma startsWith_of_mem_outline (h : ∀ e ∈ es, ∃ s, e.1 = .str s ∧ s ≠ key) :
    ∀ x ∈ outline id (.map es), startsWith key x = false := by
  intro x hx
  rw [outline_map] at hx
  obtain ⟨e, he, hx⟩ := List.mem_flatMap.1 hx
  obtain ⟨s, hs, hne⟩ := h e he
  obtain ⟨y, -, rfl⟩ := List.mem_map.1 hx
  simpa [startsWith, hs, Value.text] using hne

lemma Condensed.cons_inv {k : Value} (h : Condensed (.map ((k, v) :: es))) :
    ∃ s, k = .str s ∧ (∀ e ∈ es, ∃ r, e.1 = .str r ∧ r ≠ s) ∧ isVacant v = false ∧ Condensed v ∧
      Condensed (.map es) := by
  cases h with
  | map hnodup hkeys hfull hall =>
    rw [List.forall_mem_cons] at hkeys hfull hall
    rw [List.map_cons, List.nodup_cons] at hnodup
    obtain ⟨s, rfl⟩ := hkeys.1
    refine ⟨s, rfl, fun e he => ?_, hfull.1, hall.1, .map hnodup.2 hkeys.2 hfull.2 hall.2⟩
    obtain ⟨r, hr⟩ := hkeys.2 e he
    refine ⟨r, hr, ?_⟩
    rintro rfl
    exact hnodup.1 (List.mem_map.2 ⟨e, he, hr⟩)

lemma append_inj_of_forall {α : Type} {p : α → Bool} {as bs cs ds : List α}
    (has : ∀ a ∈ as, p a = true) (hbs : ∀ b ∈ bs, p b = false) (hcs : ∀ c ∈ cs, p c = true)
    (hds : ∀ d ∈ ds, p d = false) (h : as ++ bs = cs ++ ds) : as = cs ∧ bs = ds := by
  have hac : as = cs := by
    have hfilter := congrArg (List.filter p) h
    rwa [List.filter_append, List.filter_append, List.filter_eq_self.2 has, List.filter_eq_self.2 hcs,
      List.filter_eq_nil_iff.2 (by simpa using hbs), List.filter_eq_nil_iff.2 (by simpa using hds),
      List.append_nil, List.append_nil] at hfilter
  subst hac
  exact ⟨rfl, List.append_cancel_left h⟩

lemma key_eq_of_below_append {r s : String} {as bs cs ds : List (List String × Value)}
    (has : as ≠ []) (hbs : bs ≠ []) (h : below r as ++ cs = below s bs ++ ds) : r = s := by
  obtain ⟨a, as, rfl⟩ := List.exists_cons_of_ne_nil has
  obtain ⟨b, bs, rfl⟩ := List.exists_cons_of_ne_nil hbs
  have hfirst : (r :: a.1, a.2) = (s :: b.1, b.2) := (List.cons.inj h).1
  exact (List.cons.inj (congrArg Prod.fst hfirst)).1

lemma entries_eq_of_outline_eq
    (ih : ∀ e ∈ es, ∀ {w}, Condensed w → outline id e.2 = outline id w → e.2 = w)
    (hes : Condensed (.map es)) (hds : Condensed (.map ds))
    (h : outline id (.map es) = outline id (.map ds)) : es = ds := by
  induction es generalizing ds with
  | nil =>
    cases ds with
    | nil => rfl
    | cons d ds => exact absurd h.symm (outline_ne_nil hds rfl)
  | cons e es ihes =>
    cases ds with
    | nil => exact absurd h (outline_ne_nil hes rfl)
    | cons d ds =>
      obtain ⟨k, v⟩ := e
      obtain ⟨l, w⟩ := d
      rw [List.forall_mem_cons] at ih
      obtain ⟨r, rfl, hr, hvfull, hv, hes'⟩ := hes.cons_inv
      obtain ⟨s, rfl, hs, hwfull, hw, hds'⟩ := hds.cons_inv
      rw [outline_cons, outline_cons] at h
      obtain rfl := key_eq_of_below_append (outline_ne_nil hv hvfull) (outline_ne_nil hw hwfull) h
      -- keys are distinct, so the leaves of the first entry are all that start with its key
      obtain ⟨hfirst, hrest⟩ := append_inj_of_forall startsWith_of_mem_below
        (startsWith_of_mem_outline hr) startsWith_of_mem_below (startsWith_of_mem_outline hs) h
      obtain rfl : v = w := ih.1 hw (below_injective r hfirst)
      rw [ihes ih.2 hes' hds' hrest]

lemma notMem_outline_map {vs : List Value} {x : List String × Value} (h : x ∈ outline id (.list vs)) :
    x ∉ outline id (.map es) := by
  intro hx
  rw [outline_list id (.inl rfl)] at h
  rw [outline_map] at hx
  obtain ⟨v, -, rfl⟩ := List.mem_map.1 h
  obtain ⟨e, -, hx⟩ := List.mem_flatMap.1 hx
  obtain ⟨y, -, hy⟩ := List.mem_map.1 hx
  exact List.cons_ne_nil _ _ (congrArg Prod.fst hy)

lemma eq_of_outline_eq (hv : Condensed v) (hw : Condensed w) (hfull : isVacant v = false)
    (h : outline id v = outline id w) : v = w := by
  -- some leaf is there to tell a list from a mapping by its path
  obtain ⟨x, hx⟩ := List.exists_mem_of_ne_nil _ (outline_ne_nil hv hfull)
  induction hv generalizing w x with
  | @list vs hnull =>
    cases hw with
    | list hnull' =>
      rw [outline_list_of_ne_null hnull, outline_list_of_ne_null hnull'] at h
      rw [List.map_injective_iff.2 (fun _ _ he => congrArg Prod.snd he) h]
    | map => exact absurd (h ▸ hx) (notMem_outline_map hx)
  | map hnodup hkeys hall hcondensed ih =>
    cases hw with
    | list => exact absurd hx (notMem_outline_map (h ▸ hx))
    | map hnodup' hkeys' hall' hcondensed' =>
      refine congrArg Value.map (entries_eq_of_outline_eq (fun e he w hw hout => ?_)
        (.map hnodup hkeys hall hcondensed) (.map hnodup' hkeys' hall' hcondensed') h)
      obtain ⟨y, hy⟩ := List.exists_mem_of_ne_nil _ (outline_ne_nil (hcondensed e he) (hall e he))
      exact ih e he hw (hall e he) hout y hy

lemma entries_eq_of_condensed (hes : Condensed (.map es)) (hds : Condensed (.map ds))
    (h : outline id (.map es) = outline id (.map ds)) : es = ds := by
  refine entries_eq_of_outline_eq (fun e he w hw hout => ?_) hes hds h
  cases hes with
  | map _ _ hfull hall => exact eq_of_outline_eq (hall e he) hw (hfull e he) hout

end Injective

end HttpTemplate.Query
