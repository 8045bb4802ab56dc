import HttpTemplate.Query
import Mathlib.Data.List.Forall2
import Mathlib.Data.List.Nodup

/-! The fields of a query, which its pairs stand for: the scalars at the end of its paths of keys, and
the items of the lists there. -/

namespace HttpTemplate.Query

def isBracket (c : Char) : Bool := c == '[' || c == ']'

def PlainText (s : String) : Prop := s ≠ "" ∧ ∀ c ∈ s.toList, isBracket c = false

/-- The keys of a mapping are plain and distinct, and those of the mappings in it too. Nothing is asked
of what is in lists. -/
inductive WellNamed : Value → Prop
  | map {es : List (Value × Value)} : (es.map (·.1)).Nodup →
      (∀ e ∈ es, ∃ s, e.1 = .str s ∧ PlainText s) → (∀ e ∈ es, WellNamed e.2) → WellNamed (.map es)
  | other {v : Value} : (∀ es, v ≠ .map es) → WellNamed v

/-- What a pair stands for: a scalar, or the item of a list that has that place in it. -/
structure Field where
  path : List String
  item : Option Nat
  value : Value

def Field.under (key : String) (f : Field) : Field := { f with path := key :: f.path }

def fieldsOfItems (vs : List Value) : List Field :=
  (vs.zipIdx.filter fun e => !e.1.isNull).map fun e => ⟨[], some e.2, e.1⟩

mutual

def fieldsOf : Value → List Field
  | .null => []
  | .map es => fieldsIn es
  | .list vs | .tuple vs => fieldsOfItems vs
  | v => [⟨[], none, v⟩]

def fieldsIn : List (Value × Value) → List Field
  | [] => []
  | (k, v) :: es => (fieldsOf v).map (.under k.text) ++ fieldsIn es

end

/-- The keys that lead from a value to one within it. -/
inductive Holds : Value → List String → Value → Prop
  | here (v : Value) : Holds v [] v
  | there {es : List (Value × Value)} {v w : Value} {key : String} {path : List String} :
      (.str key, v) ∈ es → Holds v path w → Holds (.map es) (key :: path) w

def IsContainer : Value → Prop
  | .map _ | .list _ | .tuple _ => True
  | _ => False

def IsField (root : Value) (f : Field) : Prop :=
  f.value ≠ .null ∧
    match f.item with
    | none => Holds root f.path f.value ∧ ¬ IsContainer f.value
    | some i => ∃ vs, (Holds root f.path (.list vs) ∨ Holds root f.path (.tuple vs)) ∧
        vs[i]? = some f.value

inductive Before : Value → Field → Field → Prop
  | keys {es : List (Value × Value)} {k l : String} {v w : Value} (f g : Field) :
      List.Sublist [(.str k, v), (.str l, w)] es → Before (.map es) (f.under k) (g.under l)
  | within {es : List (Value × Value)} {k : String} {v : Value} {f g : Field} :
      (.str k, v) ∈ es → Before v f g → Before (.map es) (f.under k) (g.under k)
  | items {root : Value} {i j : Nat} (v w : Value) : i < j →
      Before root ⟨[], some i, v⟩ ⟨[], some j, w⟩

def SameList (root : Value) (f g : Field) : Prop :=
  f.path = g.path ∧ ∃ vs, (Holds root f.path (.list vs) ∨ Holds root f.path (.tuple vs)) ∧
    ∃ i j, f.item = some i ∧ g.item = some j ∧ vs[i]? = some f.value ∧ vs[j]? = some g.value

section Fields

variable {v : Value} {es : List (Value × Value)} {f g : Field}

lemma not_isNull_iff : (!v.isNull) = true ↔ v ≠ .null := by
  simp [← Value.isNull_iff]

lemma WellNamed.of_map (h : WellNamed (.map es)) : (es.map (·.1)).Nodup ∧
    (∀ e ∈ es, ∃ s, e.1 = .str s ∧ PlainText s) ∧ ∀ e ∈ es, WellNamed e.2 := by
  cases h with
  | map hnodup hkeys hall => exact ⟨hnodup, hkeys, hall⟩
  | other hmap => exact absurd rfl (hmap _)

lemma fieldsIn_eq_flatMap (es : List (Value × Value)) :
    fieldsIn es = es.flatMap fun e => (fieldsOf e.2).map (.under e.1.text) := by
  induction es with
  | nil => rfl
  | cons e es ih => rw [fieldsIn, ih, List.flatMap_cons]

lemma mem_fieldsOfItems {vs : List Value} :
    f ∈ fieldsOfItems vs ↔
      f.path = [] ∧ f.value ≠ .null ∧ ∃ i, f.item = some i ∧ vs[i]? = some f.value := by
  obtain ⟨path, item, value⟩ := f
  simp only [fieldsOfItems, List.mem_map, List.mem_filter, Prod.exists, Field.mk.injEq,
    List.mk_mem_zipIdx_iff_getElem?]
  constructor
  · rintro ⟨v, i, ⟨hget, hnull⟩, rfl, rfl, rfl⟩
    exact ⟨rfl, not_isNull_iff.1 hnull, i, rfl, hget⟩
  · rintro ⟨rfl, hnull, i, rfl, hget⟩
    exact ⟨value, i, ⟨hget, not_isNull_iff.2 hnull⟩, rfl, rfl, rfl⟩

lemma pairwise_fieldsOfItems {root : Value} {vs : List Value} :
    (fieldsOfItems vs).Pairwise (Before root) := by
  have hplaces : vs.zipIdx.Pairwise fun d e => d.2 < e.2 := by
    rw [← List.pairwise_map (f := fun e : Value × Nat => e.2) (R := (· < ·)), List.zipIdx_map_snd]
    exact List.pairwise_lt_range'
  exact List.pairwise_map.2 ((hplaces.filter _).imp fun hlt => .items _ _ hlt)

lemma null_or_list_or_scalar (h : ∀ es, v ≠ .map es) :
    v = .null ∨ (∃ vs, v = .list vs ∨ v = .tuple vs) ∨ v ≠ .null ∧ ¬ IsContainer v := by
  cases v <;> simp_all [IsContainer]

lemma fieldsOf_scalar (hnull : v ≠ .null) (h : ¬ IsContainer v) : fieldsOf v = [⟨[], none, v⟩] := by
  cases v <;> first | rfl | simp_all [IsContainer]

lemma holds_map_iff {path : List String} {w : Value} :
    Holds (.map es) path w ↔ (path = [] ∧ w = .map es) ∨
      ∃ k u rest, (.str k, u) ∈ es ∧ Holds u rest w ∧ path = k :: rest := by
  constructor
  · intro h
    cases h with
    | here => exact .inl ⟨rfl, rfl⟩
    | there hmem h => exact .inr ⟨_, _, _, hmem, h, rfl⟩
  · rintro (⟨rfl, rfl⟩ | ⟨k, u, rest, hmem, h, rfl⟩)
    · exact .here _
    · exact .there hmem h

lemma holds_iff_of_not_map (h : ∀ es, v ≠ .map es) {path : List String} {w : Value} :
    Holds v path w ↔ path = [] ∧ w = v := by
  constructor
  · intro hv
    cases hv with
    | here => exact ⟨rfl, rfl⟩
    | there => exact absurd rfl (h _)
  · rintro ⟨rfl, rfl⟩
    exact .here _

lemma isField_map_iff :
    IsField (.map es) f ↔ ∃ k u g, (.str k, u) ∈ es ∧ IsField u g ∧ g.under k = f := by
  obtain ⟨path, item, value⟩ := f
  constructor
  · rintro ⟨hnull, h⟩
    cases item with
    | none =>
      obtain ⟨hv, hscalar⟩ := h
      obtain ⟨rfl, rfl⟩ | ⟨k, u, rest, hmem, hu, rfl⟩ := holds_map_iff.1 hv
      · exact absurd trivial hscalar
      · exact ⟨k, u, ⟨rest, none, value⟩, hmem, ⟨hnull, hu, hscalar⟩, rfl⟩
    | some i =>
      obtain ⟨vs, hvs, hi⟩ := h
      simp only [holds_map_iff, reduceCtorEq, and_false, false_or] at hvs
      obtain ⟨k, u, rest, hmem, hu, rfl⟩ | ⟨k, u, rest, hmem, hu, rfl⟩ := hvs
      · exact ⟨k, u, ⟨rest, some i, value⟩, hmem, ⟨hnull, vs, .inl hu, hi⟩, rfl⟩
      · exact ⟨k, u, ⟨rest, some i, value⟩, hmem, ⟨hnull, vs, .inr hu, hi⟩, rfl⟩
  · rintro ⟨k, u, ⟨path, item, value⟩, hmem, ⟨hnull, h⟩, hf⟩
    simp only [Field.under, Field.mk.injEq] at hf
    obtain ⟨rfl, rfl, rfl⟩ := hf
    refine ⟨hnull, ?_⟩
    cases item with
    | none => exact ⟨.there hmem h.1, h.2⟩
    | some i =>
      obtain ⟨vs, hvs, hi⟩ := h
      exact ⟨vs, hvs.imp (.there hmem) (.there hmem), hi⟩

lemma isField_list_iff {vs : List Value} (hv : v = .list vs ∨ v = .tuple vs) :
    IsField v f ↔
      f.path = [] ∧ f.value ≠ .null ∧ ∃ i, f.item = some i ∧ vs[i]? = some f.value := by
  obtain ⟨path, item, value⟩ := f
  have hmap : ∀ es, v ≠ .map es := by rcases hv with rfl | rfl <;> simp
  simp only [IsField, holds_iff_of_not_map hmap]
  cases item with
  | none => rcases hv with rfl | rfl <;> simp +contextual [IsContainer]
  | some i => rcases hv with rfl | rfl <;> simp [and_left_comm]

lemma isField_scalar_iff (hv : ¬ IsContainer v) : IsField v f ↔ v ≠ .null ∧ f = ⟨[], none, v⟩ := by
  obtain ⟨path, item, value⟩ := f
  have hmap : ∀ es, v ≠ .map es := by rintro es rfl; exact hv trivial
  simp only [IsField, holds_iff_of_not_map hmap, Field.mk.injEq]
  cases item with
  | none =>
    constructor
    · rintro ⟨hnull, ⟨rfl, rfl⟩, -⟩
      exact ⟨hnull, rfl, rfl, rfl⟩
    · rintro ⟨hnull, rfl, -, rfl⟩
      exact ⟨hnull, ⟨rfl, rfl⟩, hv⟩
  | some i =>
    refine ⟨?_, by simp⟩
    rintro ⟨-, vs, ⟨-, rfl⟩ | ⟨-, rfl⟩, -⟩ <;> exact absurd trivial hv

lemma mem_fieldsOf (h : WellNamed v) : f ∈ fieldsOf v ↔ IsField v f := by
  induction h generalizing f with
  | @map es _ hkeys _ ih =>
    rw [isField_map_iff, fieldsOf, fieldsIn_eq_flatMap, List.mem_flatMap]
    constructor
    · rintro ⟨⟨key, u⟩, hmem, hf⟩
      obtain ⟨k, rfl, -⟩ := hkeys _ hmem
      obtain ⟨g, hg, rfl⟩ := List.mem_map.1 hf
      exact ⟨k, u, g, hmem, (ih _ hmem).1 hg, rfl⟩
    · rintro ⟨k, u, g, hmem, hg, rfl⟩
      exact ⟨(.str k, u), hmem, List.mem_map.2 ⟨g, (ih _ hmem).2 hg, rfl⟩⟩
  | other hmap =>
    rcases null_or_list_or_scalar hmap with rfl | ⟨vs, rfl | rfl⟩ | ⟨hnull, hv⟩
    · simp [fieldsOf, isField_scalar_iff (v := .null) id]
    · exact mem_fieldsOfItems.trans (isField_list_iff (.inl rfl)).symm
    · exact mem_fieldsOfItems.trans (isField_list_iff (.inr rfl)).symm
    · simp [isField_scalar_iff hv, fieldsOf_scalar hnull hv, hnull]

lemma pairwise_fieldsOf (h : WellNamed v) : (fieldsOf v).Pairwise (Before v) := by
  induction h with
  | @map es _ hkeys _ ih =>
    rw [fieldsOf, fieldsIn_eq_flatMap, List.pairwise_flatMap]
    refine ⟨fun e he => ?_, ?_⟩
    · obtain ⟨key, u⟩ := e
      obtain ⟨k, rfl, -⟩ := hkeys _ he
      exact List.pairwise_map.2 ((ih _ he).imp fun hfg => .within he hfg)
    · rw [List.pairwise_iff_forall_sublist]
      rintro ⟨key, u⟩ ⟨other, w⟩ hsub x hx y hy
      obtain ⟨k, rfl, -⟩ := hkeys (key, u) (hsub.subset (by simp))
      obtain ⟨l, rfl, -⟩ := hkeys (other, w) (hsub.subset (by simp))
      obtain ⟨f, -, rfl⟩ := List.mem_map.1 hx
      obtain ⟨g, -, rfl⟩ := List.mem_map.1 hy
      exact .keys f g hsub
  | other hmap =>
    rcases null_or_list_or_scalar hmap with rfl | ⟨vs, rfl | rfl⟩ | ⟨hnull, hv⟩
    · exact .nil
    · exact pairwise_fieldsOfItems
    · exact pairwise_fieldsOfItems
    · simp [fieldsOf_scalar hnull hv]

lemma Before.items_of_path_eq {root : Value} (hbefore : Before root f g) (h : WellNamed root)
    (hpath : f.path = g.path) : ∃ i j, f.item = some i ∧ g.item = some j ∧ i < j := by
  induction hbefore with
  | keys f g hsub =>
    -- distinct keys cannot begin the same path
    have hne := List.pairwise_iff_forall_sublist.1 (List.pairwise_map.1 h.of_map.1) hsub
    exact absurd (congrArg Value.str (List.cons.inj hpath).1) hne
  | within hmem _ ih => exact ih (h.of_map.2.2 _ hmem) (List.cons.inj hpath).2
  | items v w hlt => exact ⟨_, _, rfl, rfl, hlt⟩

lemma nodup_fieldsOf (h : WellNamed v) : (fieldsOf v).Nodup := by
  refine (pairwise_fieldsOf h).imp fun hbefore => ?_
  rintro rfl
  obtain ⟨i, j, hi, hj, hlt⟩ := hbefore.items_of_path_eq h rfl
  exact absurd (Option.some.inj (hi.symm.trans hj)) (Nat.ne_of_lt hlt)

lemma Holds.unique {path : List String} {w u : Value} (hw : Holds v path w) (hu : Holds v path u)
    (h : WellNamed v) : w = u := by
  induction hw with
  | here =>
    cases hu
    rfl
  | there hmem _ ih =>
    cases hu with
    | there hmem' hu =>
      obtain ⟨hnodup, -, hall⟩ := h.of_map
      obtain rfl := (Prod.ext_iff.1 (List.inj_on_of_nodup_map hnodup hmem hmem' rfl)).2
      exact ih hu (hall _ hmem)

lemma IsField.sameList (hf : IsField v f) (hg : IsField v g) (h : WellNamed v)
    (hpath : f.path = g.path) {i j : Nat} (hi : f.item = some i) (hj : g.item = some j) :
    SameList v f g := by
  obtain ⟨path, item, value⟩ := f
  obtain ⟨path', item', value'⟩ := g
  subst hpath hi hj
  obtain ⟨-, vs, hvs, hvalue⟩ := hf
  obtain ⟨-, ws, hws, hvalue'⟩ := hg
  obtain rfl : vs = ws := by
    rcases hvs with hvs | hvs <;> rcases hws with hws | hws
    · exact Value.list.inj (hvs.unique hws h)
    · exact absurd (hvs.unique hws h) Value.noConfusion
    · exact absurd (hvs.unique hws h) Value.noConfusion
    · exact Value.tuple.inj (hvs.unique hws h)
  exact ⟨rfl, vs, hvs, i, j, rfl, rfl, hvalue, hvalue'⟩

lemma Holds.plainText {path : List String} {w : Value} (hv : Holds v path w) (h : WellNamed v) :
    ∀ k ∈ path, PlainText k := by
  induction hv with
  | here => simp
  | there hmem _ ih =>
    obtain ⟨-, hkeys, hall⟩ := h.of_map
    obtain ⟨s, hs, hplain⟩ := hkeys _ hmem
    rw [List.forall_mem_cons, Value.str.inj hs]
    exact ⟨hplain, ih (hall _ hmem)⟩

lemma IsField.plainText (hf : IsField v f) (h : WellNamed v) : ∀ k ∈ f.path, PlainText k := by
  obtain ⟨path, item, value⟩ := f
  cases item with
  | none => exact hf.2.1.plainText h
  | some i =>
    obtain ⟨vs, hvs | hvs, -⟩ := hf.2
    · exact hvs.plainText h
    · exact hvs.plainText h

end Fields

end HttpTemplate.Query
