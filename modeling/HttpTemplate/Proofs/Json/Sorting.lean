import HttpTemplate.Proofs.Json.Reals
import Mathlib.Data.List.Forall2
import Mathlib.Data.List.Sort
import Mathlib.Data.String.Basic

/-! Documents with the members of every object in the order of their names. They differ from the
documents that they come from in this order only, and are read back from the text that is printed
for them. -/

namespace HttpTemplate.Json

inductive Reordered : Value → Value → Prop
  | refl (v : Value) : Reordered v v
  | trans {u v w : Value} : Reordered u v → Reordered v w → Reordered u w
  | members {es ds : List (Value × Value)} : es.Perm ds → Reordered (.map es) (.map ds)
  | item {v w : Value} (before after : List Value) : Reordered v w →
      Reordered (.list (before ++ v :: after)) (.list (before ++ w :: after))
  | member {v w : Value} (k : Value) (before after : List (Value × Value)) : Reordered v w →
      Reordered (.map (before ++ (k, v) :: after)) (.map (before ++ (k, w) :: after))

def Rises (k l : Value) : Prop := ∃ s t, k = .str s ∧ l = .str t ∧ s < t

inductive Sorted : Value → Prop
  | null : Sorted .null
  | bool (b : Bool) : Sorted (.bool b)
  | int (n : Int) : Sorted (.int n)
  | float (x : Binary64) : Sorted (.float x)
  | str (s : String) : Sorted (.str s)
  | list {vs : List Value} : (∀ v ∈ vs, Sorted v) → Sorted (.list vs)
  | map {es : List (Value × Value)} :
      es.Pairwise (fun d e => Rises d.1 e.1) → (∀ e ∈ es, Sorted e.2) → Sorted (.map es)

section Members

variable {es ds : List (Value × Value)}

lemma sortAll_eq (vs : List Value) : sortAll vs = vs.map sortKeys := by
  induction vs with
  | nil => rfl
  | cons v vs ih => rw [sortAll, ih, List.map_cons]

lemma sortEntries_eq (es : List (Value × Value)) :
    sortEntries es = es.map fun e => (e.1, sortKeys e.2) := by
  induction es with
  | nil => rfl
  | cons e es ih => rw [sortEntries, ih, List.map_cons]

lemma named_sortEntries (hk : ∀ e ∈ es, ∃ name, e.1 = .str name) :
    ∀ e ∈ sortEntries es, ∃ name, e.1 = .str name := by
  rw [sortEntries_eq]
  exact List.forall_mem_map.mpr hk

lemma keys_sortEntries (es : List (Value × Value)) :
    Entries.keys (sortEntries es) = Entries.keys es := by
  rw [sortEntries_eq, Entries.keys, List.map_map]
  rfl

lemma inOrder_named (hk : ∀ e ∈ es, ∃ name, e.1 = .str name) :
    (inOrder es).toOption.getD es = es.mergeSort fun d e => textLe d.1 e.1 := by
  rw [inOrder, if_pos (all_isText hk)]
  rfl

lemma perm_inOrder (hk : ∀ e ∈ es, ∃ name, e.1 = .str name) :
    ((inOrder es).toOption.getD es).Perm es := by
  rw [inOrder_named hk]
  exact List.mergeSort_perm _ _

lemma rises_inOrder (hk : ∀ e ∈ es, ∃ name, e.1 = .str name) (hdistinct : (Entries.keys es).Nodup) :
    ((inOrder es).toOption.getD es).Pairwise fun d e => Rises d.1 e.1 := by
  have hperm := perm_inOrder hk
  -- `textLe` is a linear order on names only, so that the members are sorted by their texts instead
  have hle : ((inOrder es).toOption.getD es).Pairwise fun d e => d.1.text ≤ e.1.text := by
    have htexts : (es.mergeSort fun d e => textLe d.1 e.1).map (·.1.text) =
        (es.map (·.1.text)).mergeSort fun s t => decide (s ≤ t) := by
      refine List.map_mergeSort fun d hd e he => ?_
      obtain ⟨s, hs⟩ := hk d hd
      obtain ⟨t, ht⟩ := hk e he
      rw [hs, ht]
      rfl
    have hsorted := List.pairwise_mergeSort' (· ≤ ·) (es.map (·.1.text))
    rw [← htexts, List.pairwise_map] at hsorted
    rwa [inOrder_named hk]
  have hne : ((inOrder es).toOption.getD es).Pairwise fun d e => d.1 ≠ e.1 :=
    List.pairwise_map.mp ((hperm.map Prod.fst).nodup_iff.mpr hdistinct)
  apply (hle.and hne).imp_of_mem
  rintro d e hd he ⟨hle, hne⟩
  obtain ⟨s, hs⟩ := hk d (hperm.mem_iff.mp hd)
  obtain ⟨t, ht⟩ := hk e (hperm.mem_iff.mp he)
  rw [hs, ht] at hle hne
  exact ⟨s, t, hs, ht, lt_of_le_of_ne hle fun h => hne (congrArg Value.str h)⟩

def sortedMembers (es : List (Value × Value)) : List (Value × Value) :=
  (inOrder (sortEntries es)).toOption.getD (sortEntries es)

lemma sortKeys_map (es : List (Value × Value)) : sortKeys (.map es) = .map (sortedMembers es) := by
  rw [sortKeys, sortedMembers]

lemma perm_sortedMembers (hk : ∀ e ∈ es, ∃ name, e.1 = .str name) :
    (sortedMembers es).Perm (sortEntries es) :=
  perm_inOrder (named_sortEntries hk)

lemma named_sortedMembers (hk : ∀ e ∈ es, ∃ name, e.1 = .str name) :
    ∀ e ∈ sortedMembers es, ∃ name, e.1 = .str name := fun e he =>
  named_sortEntries hk e ((perm_sortedMembers hk).mem_iff.mp he)

lemma forall_sortedMembers {p : Value → Prop} (hk : ∀ e ∈ es, ∃ name, e.1 = .str name)
    (h : ∀ e ∈ es, p (sortKeys e.2)) : ∀ e ∈ sortedMembers es, p e.2 := by
  have hentries : ∀ e ∈ sortEntries es, p e.2 := by
    rw [sortEntries_eq]
    exact List.forall_mem_map.mpr h
  exact fun e he => hentries e ((perm_sortedMembers hk).mem_iff.mp he)

lemma nodup_keys_sortedMembers (hk : ∀ e ∈ es, ∃ name, e.1 = .str name)
    (hdistinct : (Entries.keys es).Nodup) : (Entries.keys (sortedMembers es)).Nodup := by
  refine ((perm_sortedMembers hk).map Prod.fst).nodup_iff.mpr ?_
  rwa [← keys_sortEntries] at hdistinct

lemma rises_sortedMembers (hk : ∀ e ∈ es, ∃ name, e.1 = .str name)
    (hdistinct : (Entries.keys es).Nodup) :
    (sortedMembers es).Pairwise fun d e => Rises d.1 e.1 := by
  rw [← keys_sortEntries] at hdistinct
  exact rises_inOrder (named_sortEntries hk) hdistinct

end Members

section Documents

variable {v : Value}

lemma datum_sortKeys (h : Datum v) : Datum (sortKeys v) := by
  induction h with
  | list _ ih =>
    rw [sortKeys, sortAll_eq]
    exact .list (List.forall_mem_map.mpr ih)
  | map hk hdistinct _ ih =>
    rw [sortKeys_map]
    exact .map (named_sortedMembers hk) (nodup_keys_sortedMembers hk hdistinct)
      (forall_sortedMembers hk ih)
  | null => exact .null
  | bool b => exact .bool b
  | int hn => exact .int hn
  | float hx => exact .float hx
  | str s => exact .str s

lemma sorted_sortKeys (h : Datum v) : Sorted (sortKeys v) := by
  induction h with
  | list _ ih =>
    rw [sortKeys, sortAll_eq]
    exact .list (List.forall_mem_map.mpr ih)
  | map hk hdistinct _ ih =>
    rw [sortKeys_map]
    exact .map (rises_sortedMembers hk hdistinct) (forall_sortedMembers hk ih)
  | null => exact .null
  | bool b => exact .bool b
  | int => exact .int _
  | float => exact .float _
  | str s => exact .str s

lemma reordered_items {vs ws : List Value} (h : List.Forall₂ Reordered vs ws)
    (before : List Value) : Reordered (.list (before ++ vs)) (.list (before ++ ws)) := by
  induction h generalizing before with
  | nil => exact .refl _
  | @cons v w vs ws hv _ ih =>
    -- one item at a time, and those that are done stand before the rest
    have hrest := ih (before ++ [w])
    rw [List.append_assoc, List.append_assoc] at hrest
    exact .trans (.item before vs hv) hrest

lemma reordered_entries {es : List (Value × Value)} (h : ∀ e ∈ es, Reordered e.2 (sortKeys e.2))
    (before : List (Value × Value)) :
    Reordered (.map (before ++ es)) (.map (before ++ sortEntries es)) := by
  induction es generalizing before with
  | nil => exact .refl _
  | cons e es ih =>
    obtain ⟨k, v⟩ := e
    obtain ⟨hv, hes⟩ := List.forall_mem_cons.mp h
    have hrest := ih hes (before ++ [(k, sortKeys v)])
    rw [List.append_assoc, List.append_assoc] at hrest
    exact .trans (.member k before es hv) hrest

lemma reordered_sortKeys (h : Document v) : Reordered v (sortKeys v) := by
  induction h with
  | @list vs _ ih =>
    rw [sortKeys, sortAll_eq]
    exact reordered_items (List.forall₂_map_right_iff.mpr (List.forall₂_same.mpr ih)) []
  | map hk _ ih =>
    rw [sortKeys_map]
    exact .trans (reordered_entries ih []) (.members (perm_sortedMembers hk).symm)
  | _ => exact .refl _

end Documents

lemma spaced_indented (width : Nat) : Spaced (.indented width) := by
  have hspaces : ∀ depth, IsSpaces (Spacing.newline width depth).toList := by
    intro depth c hc
    rw [Spacing.newline, String.toList_ofList] at hc
    rcases List.mem_cons.mp hc with rfl | hc
    · rfl
    · rw [List.eq_of_mem_replicate hc]
      rfl
  exact ⟨fun depth => hspaces _, fun depth => ⟨_, String.toList_append, hspaces _⟩,
    fun depth => hspaces _⟩

theorem read_printed {v : Value} (h : Datum v) :
    ∃ text w, write .pretty (sortKeys v) = .ok text ∧ read text = .ok w ∧ Reordered v w ∧
      Sorted w := by
  obtain ⟨text, hwrite, hread⟩ :=
    read_write_datum (f := .pretty) (spaced_indented 2) (datum_sortKeys h) fun _ => rfl
  exact ⟨text, _, hwrite, hread, reordered_sortKeys h.document, sorted_sortKeys h⟩

end HttpTemplate.Json
