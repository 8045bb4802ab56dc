import HttpTemplate.Proofs.Faults
import HttpTemplate.Proofs.Query.Fields
import Mathlib.Data.List.Induction

/-! The names of pairs. A name is a path with all keys but the first in brackets, and from keys that are
plain the path is read back by cutting at the brackets. -/

namespace HttpTemplate.Query

open Faults

def nameOf (path : List String) : String :=
  path.foldl (fun outer key => nested outer (.str key)) ""

def keyPath (name : String) : List String :=
  ((name.toList.splitOnP isBracket).map String.ofList).filter (· ≠ "")

section Names

variable {path : List String} {key : String}

lemma nameOf_concat (path : List String) (key : String) :
    nameOf (path ++ [key]) = nested (nameOf path) (.str key) := by
  rw [nameOf, List.foldl_append]
  rfl

lemma nameOf_ne_empty (hne : path ≠ []) (h : ∀ k ∈ path, PlainText k) : nameOf path ≠ "" := by
  obtain ⟨path, key, rfl⟩ := List.eq_nil_or_concat'  path |>.resolve_left hne
  have hkey : key ≠ "" := (h key (by simp)).1
  rw [nameOf_concat, nested]
  split
  · exact hkey
  · intro he
    simpa using congrArg String.toList he

lemma splitOnP_plain (h : PlainText key) : key.toList.splitOnP isBracket = [key.toList] :=
  List.splitOnP_eq_singleton h.2

lemma splitOnP_bracketed (outer : String) (h : PlainText key) :
    (outer ++ "[" ++ key ++ "]").toList.splitOnP isBracket =
      outer.toList.splitOnP isBracket ++ [key.toList, []] := by
  have htext : (outer ++ "[" ++ key ++ "]").toList = outer.toList ++ '[' :: (key.toList ++ [']']) := by
    simp
  rw [htext, List.splitOnP_append_cons _ _ rfl, List.splitOnP_append_cons _ _ rfl, splitOnP_plain h,
    List.splitOnP_nil, List.singleton_append]

lemma keyPath_nameOf (h : ∀ k ∈ path, PlainText k) : keyPath (nameOf path) = path := by
  induction path using List.reverseRecOn with
  | nil => rfl
  | append_singleton path key ih =>
    rw [List.forall_mem_append] at h
    obtain ⟨hpath, hkey⟩ := h
    have hplain : PlainText key := hkey key (by simp)
    rw [nameOf_concat, nested]
    split
    · next hempty =>
      have hnil : path = [] := by
        by_contra hne
        exact nameOf_ne_empty hne hpath hempty
      simp [hnil, keyPath, splitOnP_plain hplain, Value.text, hplain.1]
    · have hcut := splitOnP_bracketed (nameOf path) hplain
      have houter := ih hpath
      rw [keyPath] at houter ⊢
      rw [Value.text, hcut, List.map_append, List.filter_append, houter]
      simp [hplain.1]

end Names

def StandsFor (path : List String) (f : Field) (p : String × String) : Prop :=
  p.1 = nameOf (path ++ f.path) ∧ fieldText f.value = .ok p.2

section Flatten

variable {v : Value} {path : List String} {pairs : List (String × String)}

lemma fieldText_scalar (h : ¬ IsContainer v) : fieldText v = .ok v.render := by
  cases v <;> first | rfl | exact absurd trivial h

lemma flattenValue_scalar (hnull : v ≠ .null) (h : ¬ IsContainer v) (name : String) :
    flattenValue name v = .ok [(name, v.render)] := by
  cases v <;> first | rfl | exact absurd rfl hnull | exact absurd trivial h

lemma StandsFor.under {key : String} {f : Field} {p : String × String}
    (h : StandsFor (path ++ [key]) f p) : StandsFor path (f.under key) p := by
  refine ⟨?_, h.2⟩
  simpa [Field.under] using h.1

lemma standsFor_items {vs : List Value} (h : flattenItems (nameOf path) vs = .ok pairs) :
    List.Forall₂ (StandsFor path) (fieldsOfItems vs) pairs := by
  rw [fieldsOfItems]
  generalize 0 = start
  induction vs generalizing start pairs with
  | nil =>
    cases h
    exact .nil
  | cons v vs ih =>
    rw [flattenItems] at h
    rw [List.zipIdx_cons]
    split at h
    · next hnull =>
      simpa [hnull] using ih h (start + 1)
    · next hnull =>
      obtain ⟨text, htext, h⟩ := bind_eq_ok.1 h
      obtain ⟨rest, hrest, h⟩ := bind_eq_ok.1 h
      cases h
      rw [List.filter_cons_of_pos (by simpa using hnull), List.map_cons]
      exact .cons ⟨by simp, htext⟩ (ih hrest (start + 1))

lemma standsFor_entries {es : List (Value × Value)} (hkeys : ∀ e ∈ es, ∃ s, e.1 = .str s ∧ PlainText s)
    (ih : ∀ e ∈ es, ∀ {path pairs}, flattenValue (nameOf path) e.2 = .ok pairs →
      List.Forall₂ (StandsFor path) (fieldsOf e.2) pairs)
    (h : flattenEntries (nameOf path) es = .ok pairs) :
    List.Forall₂ (StandsFor path) (fieldsIn es) pairs := by
  induction es generalizing pairs with
  | nil =>
    cases h
    exact .nil
  | cons e es ihes =>
    obtain ⟨key, v⟩ := e
    rw [List.forall_mem_cons] at hkeys ih
    obtain ⟨s, rfl, -⟩ := hkeys.1
    rw [flattenEntries, ← nameOf_concat] at h
    obtain ⟨first, hfirst, h⟩ := bind_eq_ok.1 h
    obtain ⟨others, hothers, h⟩ := bind_eq_ok.1 h
    cases h
    rw [fieldsIn]
    refine List.rel_append ?_ (ihes hkeys.2 ih.2 hothers)
    exact List.forall₂_map_left_iff.2 ((ih.1 hfirst).imp fun _ _ hp => hp.under)

lemma standsFor_of_flattenValue (hv : WellNamed v) (h : flattenValue (nameOf path) v = .ok pairs) :
    List.Forall₂ (StandsFor path) (fieldsOf v) pairs := by
  induction hv generalizing path pairs with
  | map _ hkeys _ ih => exact standsFor_entries hkeys ih h
  | other hmap =>
    rcases null_or_list_or_scalar hmap with rfl | ⟨vs, rfl | rfl⟩ | ⟨hnull, hscalar⟩
    · cases h
      exact .nil
    · exact standsFor_items h
    · exact standsFor_items h
    · rw [flattenValue_scalar hnull hscalar] at h
      cases h
      rw [fieldsOf_scalar hnull hscalar]
      exact .cons ⟨by simp, fieldText_scalar hscalar⟩ .nil

end Flatten

end HttpTemplate.Query
