import HttpTemplate.Json.Write
import HttpTemplate.Proofs.Faults

/-! JSON documents, which have string keys throughout. In a format that has a place for numbers that
are not finite all of them can be written whose whole numbers can. -/

namespace HttpTemplate.Json

open Faults

inductive Document : Value → Prop
  | null : Document .null
  | bool (b : Bool) : Document (.bool b)
  | int (n : Int) : Document (.int n)
  | float (x : Binary64) : Document (.float x)
  | str (s : String) : Document (.str s)
  | list {vs : List Value} : (∀ v ∈ vs, Document v) → Document (.list vs)
  | map {es : List (Value × Value)} :
      (∀ e ∈ es, ∃ name, e.1 = .str name) → (∀ e ∈ es, Document e.2) → Document (.map es)

def Members (es : List (Value × Value)) : Prop :=
  ∀ e ∈ es, (∃ name, e.1 = .str name) ∧ Document e.2

lemma Members.document {es : List (Value × Value)} (h : Members es) : Document (.map es) :=
  .map (fun e he => (h e he).1) fun e he => (h e he).2

section Writing

variable {f : Format} {fault : WriteFault} {depth : Nat}

lemma all_isText {es : List (Value × Value)} (h : ∀ e ∈ es, ∃ name, e.1 = .str name) :
    es.all (isText ·.1) = true := by
  rw [List.all_eq_true]
  intro e he
  obtain ⟨name, hname⟩ := h e he
  rw [hname, isText]

lemma checkOrder_names (f : Format) {es : List (Value × Value)}
    (h : ∀ e ∈ es, ∃ name, e.1 = .str name) : f.checkOrder es = .ok () := by
  rw [Format.checkOrder]
  split
  · rw [inOrder, if_pos (all_isText h)]
    rfl
  · rfl

lemma real_fault {x : Binary64} (h : real f x = .error fault) :
    fault = .notFinite ∧ f.allowNotFinite = false := by
  rw [real.eq_def] at h
  split at h
  · cases h
  all_goals
    split at h
    · cases h
    · next hf =>
      cases h
      exact ⟨rfl, Bool.eq_false_iff.mpr hf⟩

lemma writeAll_fault {vs : List Value} (h : writeAll f depth vs = .error fault) :
    ∃ v ∈ vs, writeAt f depth v = .error fault := by
  induction vs with
  | nil => cases h
  | cons v vs ih =>
    rw [writeAll] at h
    rcases bind_eq_error.mp h with hv | ⟨text, -, h⟩
    · exact ⟨v, List.mem_cons_self, hv⟩
    · rcases bind_eq_error.mp h with hvs | ⟨texts, -, h⟩
      · obtain ⟨w, hw, hfault⟩ := ih hvs
        exact ⟨w, List.mem_cons_of_mem v hw, hfault⟩
      · cases h

lemma writeEntries_fault {es : List (Value × Value)} (hk : ∀ e ∈ es, ∃ name, e.1 = .str name)
    (h : writeEntries f depth es = .error fault) :
    ∃ e ∈ es, writeAt f depth e.2 = .error fault := by
  induction es with
  | nil => cases h
  | cons e es ih =>
    obtain ⟨k, v⟩ := e
    obtain ⟨name, rfl⟩ := hk (k, v) List.mem_cons_self
    rw [writeEntries] at h
    rcases bind_eq_error.mp h with hname | ⟨key, -, h⟩
    · cases hname
    · rcases bind_eq_error.mp h with hv | ⟨text, -, h⟩
      · exact ⟨_, List.mem_cons_self, hv⟩
      · rcases bind_eq_error.mp h with hes | ⟨texts, -, h⟩
        · obtain ⟨d, hd, hfault⟩ := ih (fun d hd => hk d (List.mem_cons_of_mem _ hd)) hes
          exact ⟨d, List.mem_cons_of_mem _ hd, hfault⟩
        · cases h

lemma whole_fault {n : Int} (h : whole n = .error fault) :
    fault = .misuse .oversized ∧ Numeral.isWritable n = false := by
  rw [whole] at h
  split at h
  · cases h
  · next hn =>
    cases h
    exact ⟨rfl, Bool.eq_false_iff.mpr hn⟩

lemma isWritable_list {vs : List Value} :
    (Value.list vs).isWritable = true ↔ ∀ v ∈ vs, v.isWritable = true :=
  Value.allWritable_iff

lemma isWritable_map {es : List (Value × Value)} (hk : ∀ e ∈ es, ∃ name, e.1 = .str name) :
    (Value.map es).isWritable = true ↔ ∀ e ∈ es, e.2.isWritable = true := by
  refine Value.entriesWritable_iff.trans ⟨fun h e he => (h e he).2, fun h e he => ⟨?_, h e he⟩⟩
  obtain ⟨name, hname⟩ := hk e he
  rw [hname]
  rfl

lemma writeAt_fault {v : Value} (hv : Document v) (h : writeAt f depth v = .error fault) :
    fault = .notFinite ∧ f.allowNotFinite = false ∨
      fault = .misuse .oversized ∧ v.isWritable = false := by
  induction hv generalizing depth with
  | int n => exact .inr (whole_fault (by simpa only [writeAt] using h))
  | float x => exact .inl (real_fault (by simpa only [writeAt] using h))
  | @list vs _ ih =>
    rw [writeAt] at h
    rcases bind_eq_error.mp h with h | ⟨texts, -, h⟩
    · obtain ⟨v, hv, hfault⟩ := writeAll_fault h
      refine (ih v hv hfault).imp_right fun ⟨hfault, hv'⟩ => ⟨hfault, Bool.eq_false_iff.mpr ?_⟩
      exact fun hvs => Bool.eq_false_iff.mp hv' (isWritable_list.mp hvs v hv)
    · cases h
  | @map es hk _ ih =>
    rw [writeAt, checkOrder_names f hk] at h
    have h : (writeEntries f (depth + 1) es >>= fun texts => pure _) = .error fault := h
    rcases bind_eq_error.mp h with h | ⟨texts, -, h⟩
    · obtain ⟨e, he, hfault⟩ := writeEntries_fault hk h
      refine (ih e he hfault).imp_right fun ⟨hfault, hv'⟩ => ⟨hfault, Bool.eq_false_iff.mpr ?_⟩
      exact fun hes => Bool.eq_false_iff.mp hv' ((isWritable_map hk).mp hes e he)
    · cases h
  | _ => simp only [writeAt] at h; cases h

lemma write_fault {v : Value} (hv : Document v) (h : write f v = .error fault) :
    fault = .notFinite ∧ f.allowNotFinite = false ∨
      fault = .misuse .oversized ∧ v.isWritable = false :=
  writeAt_fault hv h

def OfNumber (fault : WriteFault) : Prop := fault = .notFinite ∨ fault = .misuse .oversized

lemma write_ofNumber {v : Value} (hv : Document v) (h : write f v = .error fault) :
    OfNumber fault :=
  (write_fault hv h).imp And.left And.left

lemma writeAll_ok {vs : List Value} {texts : List String} (h : writeAll f depth vs = .ok texts) :
    ∀ v ∈ vs, ∃ text, writeAt f depth v = .ok text := by
  induction vs generalizing texts with
  | nil => exact List.forall_mem_nil _
  | cons v vs ih =>
    rw [writeAll] at h
    obtain ⟨text, hv, h⟩ := bind_eq_ok.mp h
    obtain ⟨rest, hvs, -⟩ := bind_eq_ok.mp h
    exact List.forall_mem_cons.mpr ⟨⟨text, hv⟩, ih hvs⟩

lemma writeEntries_ok {es : List (Value × Value)} {texts : List String}
    (h : writeEntries f depth es = .ok texts) :
    ∀ e ∈ es, ∃ text, writeAt f depth e.2 = .ok text := by
  induction es generalizing texts with
  | nil => exact List.forall_mem_nil _
  | cons e es ih =>
    rw [writeEntries] at h
    obtain ⟨key, -, h⟩ := bind_eq_ok.mp h
    obtain ⟨text, hv, h⟩ := bind_eq_ok.mp h
    obtain ⟨rest, hes, -⟩ := bind_eq_ok.mp h
    exact List.forall_mem_cons.mpr ⟨⟨text, hv⟩, ih hes⟩

end Writing

section Members

variable {v : Value}

lemma members_put {name : String} {es : Table} (hes : Members es) (hv : Document v) :
    Members (es.put (.str name) v) := by
  intro e he
  obtain ⟨hk, hw⟩ := Entries.mem_put he
  refine ⟨?_, ?_⟩
  · rcases hk with hk | ⟨d, hd, hk⟩
    · exact ⟨name, hk⟩
    · exact hk ▸ (hes d hd).1
  · rcases hw with hw | he
    · exact hw ▸ hv
    · exact (hes e he).2

lemma members_cons {name : String} {es : List (Value × Value)} (hv : Document v)
    (hes : Members es) : Members ((.str name, v) :: es) := by
  rintro e (_ | ⟨_, he⟩)
  · exact ⟨⟨name, rfl⟩, hv⟩
  · exact hes e he

end Members

end HttpTemplate.Json
