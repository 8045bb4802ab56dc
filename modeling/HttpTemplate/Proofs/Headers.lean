import HttpTemplate.Header
import HttpTemplate.Proofs.Entries
import HttpTemplate.Proofs.Text.Case

/-! Normalized headers. Their names are trimmed and in lower case, and under a name they have the
field that comes last among those with that name in any casing. -/

namespace HttpTemplate.Header

open Entries

section Tables

def named (hs : Table) : List (String × String) :=
  (hs.filter (!·.1.isNull)).map fun (k, v) => (k.text, fieldText v)

def normalized (pairs : List (String × String)) : List (String × String) :=
  pairs.filterMap fun e =>
    if Text.lower (Text.strip e.1) = "" then none else some (Text.lower (Text.strip e.1), e.2)

variable {hs : Table} {name : String}

lemma entries_map (es : Table) : entries (.map es) = .ok es := by
  cases es <;> rfl

lemma named_toTable (h : Headers) : named h.toTable = h := by
  induction h with
  | nil => rfl
  | cons e h ih => exact congrArg (e :: ·) ih

lemma toValue_injective {h g : Headers} (heq : h.toValue = g.toValue) : h = g := by
  rw [← named_toTable h, ← named_toTable g, Value.map.inj heq]

lemma normalizeTable_eq (hs : Table) : normalizeTable hs = ofPairs (normalized (named hs)) := by
  simp only [normalizeTable, normalized, named, List.filterMap_map, Function.comp_def]

lemma mem_normalized {pairs : List (String × String)} (h : name ∈ (normalized pairs).map (·.1)) :
    Text.lower name = name ∧ Text.strip name = name ∧ name ≠ "" := by
  obtain ⟨e, he, rfl⟩ := List.mem_map.mp h
  obtain ⟨d, -, hsome⟩ := List.mem_filterMap.mp he
  by_cases hempty : Text.lower (Text.strip d.1) = ""
  · rw [if_pos hempty] at hsome
    cases hsome
  · rw [if_neg hempty] at hsome
    obtain rfl := Option.some.inj hsome
    exact ⟨Text.lower_lower _, Text.strip_lower_iff.mpr (Text.strip_strip d.1), hempty⟩

lemma keys_normalizeTable (h : name ∈ keys (normalizeTable hs)) :
    Text.lower name = name ∧ Text.strip name = name ∧ name ≠ "" := by
  rw [normalizeTable_eq, keys_ofPairs, List.mem_eraseDups] at h
  exact mem_normalized h

lemma nodup_keys_normalizeTable (hs : Table) : (keys (normalizeTable hs)).Nodup := by
  rw [normalizeTable_eq]
  exact nodup_keys_putAll (m := []) List.nodup_nil _

lemma normalizeTable_normalized (hs : Table) :
    normalizeTable (normalizeTable hs).toTable = normalizeTable hs := by
  have hsame : normalized (normalizeTable hs) = normalizeTable hs := by
    rw [normalized]
    conv_rhs => rw [← List.filterMap_some (l := normalizeTable hs)]
    refine List.filterMap_congr fun e he => ?_
    obtain ⟨hlower, hstrip, hne⟩ := keys_normalizeTable (List.mem_map_of_mem he)
    rw [hstrip, hlower, if_neg hne]
  rw [normalizeTable_eq, named_toTable, hsame, ofPairs_eq_self (nodup_keys_normalizeTable hs)]

end Tables

section Lookups

variable {h : Headers} {name : String}

lemma value_map (es : Table) (hname : name ≠ "") (default : String) :
    value (.map es) (.str name) default = .ok (valueIn es (.str name) default) := by
  have hholds : (Value.str name).truthy = true := bne_iff_ne.mpr hname
  rw [value, hholds, entries_map]
  cases es <;> rfl

lemma isJson_map (es : Table) :
    isJson (.map es) =
      .ok (Text.mentions (Text.lower (valueIn es (.str "content-type") "")) "json") := by
  rw [isJson, value_map es (by decide)]
  rfl

lemma valueIn_toTable (hlower : ∀ k ∈ keys h, Text.lower k = k) (name default : String) :
    valueIn h.toTable (.str name) default =
      (get? (Text.lower name) h).elim default Text.strip := by
  induction h with
  | nil => rfl
  | cons e h ih =>
    obtain ⟨k, v⟩ := e
    obtain ⟨hk, hkeys⟩ := List.forall_mem_cons.mp hlower
    have hfold : (foldName (.str k) == foldName (.str name)) = (k == Text.lower name) :=
      congrArg (· == Text.lower name) hk
    have htail := ih hkeys
    rw [valueIn] at htail ⊢
    cases hname : k == Text.lower name with
    | true => simp [Headers.toTable, get?, hfold, hname, Value.isNull, Value.text]
    | false => simpa [Headers.toTable, get?, hfold, hname] using htail

lemma has_toValue (hlower : ∀ k ∈ keys h, Text.lower k = k) (name : String) :
    has h.toValue (.str name) = .ok (get? (Text.lower name) h).isSome := by
  have hmembers : has h.toValue (.str name) =
      .ok ((keys h.toTable).any fun k => some (foldName k) == some (Text.lower name)) := by
    cases h <;> rfl
  rw [hmembers]
  congr 1
  clear hmembers
  induction h with
  | nil => rfl
  | cons e h ih =>
    obtain ⟨k, v⟩ := e
    obtain ⟨hk, hkeys⟩ := List.forall_mem_cons.mp hlower
    have hfold : foldName (.str k) = k := hk
    have htail := ih hkeys
    cases hname : k == Text.lower name with
    | true => simp [Headers.toTable, get?, hfold, hname]
    | false => simpa [Headers.toTable, get?, hfold, hname] using htail

end Lookups

section Names

def Named (name : String) (e : Value × Value) : Prop :=
  e.1 ≠ .null ∧ Text.lower (Text.strip e.1.text) = Text.lower name

instance (name : String) (e : Value × Value) : Decidable (Named name e) :=
  decidable_of_iff (e.1.isNull = false ∧ Text.lower (Text.strip e.1.text) = Text.lower name) <|
    and_congr_left' <| by rw [← Bool.not_eq_true, Value.isNull_iff]

variable {name : String}

lemma valuesOf_normalized (hname : name ≠ "") (e : Value × Value) :
    valuesOf (Text.lower name) (normalized (named [e])) =
      if Named name e then [fieldText e.2] else [] := by
  by_cases hnull : e.1 = .null
  · have hnot : ¬ Named name e := fun h => h.1 hnull
    simp [named, normalized, hnull, Value.isNull, hnot]
  · have hnamed : named [e] = [(e.1.text, fieldText e.2)] := by
      simp [named, Bool.eq_false_iff.mpr (mt Value.isNull_iff.mp hnull)]
    rw [hnamed]
    by_cases hempty : Text.lower (Text.strip e.1.text) = ""
    · have hnot : ¬ Named name e := fun h => hname (Text.lower_eq_empty_iff.mp (h.2 ▸ hempty))
      simp [normalized, hempty, hnot]
    · have hkept : normalized [(e.1.text, fieldText e.2)] =
          [(Text.lower (Text.strip e.1.text), fieldText e.2)] := by
        simp [normalized, hempty]
      rw [hkept]
      by_cases hsame : Text.lower (Text.strip e.1.text) = Text.lower name
      · rw [if_pos ⟨hnull, hsame⟩, hsame, valuesOf_singleton_self]
      · rw [if_neg fun h => hsame h.2, valuesOf_singleton_of_ne hsame]

lemma valuesOf_named (hname : name ≠ "") (hs : Table) :
    valuesOf (Text.lower name) (normalized (named hs)) =
      (hs.filter (Named name ·)).map fun e => fieldText e.2 := by
  induction hs with
  | nil => rfl
  | cons e hs ih =>
    have hsplit :
        normalized (named (e :: hs)) = normalized (named [e]) ++ normalized (named hs) := by
      rw [← List.singleton_append, named, List.filter_append, List.map_append, normalized,
        List.filterMap_append]
      rfl
    rw [hsplit, valuesOf_append, ih, valuesOf_normalized hname, List.filter_cons]
    by_cases he : Named name e <;> simp [he]

lemma get?_normalizeTable (hname : name ≠ "") (hs : Table) :
    get? (Text.lower name) (normalizeTable hs) =
      (hs.filter (Named name ·)).getLast?.map fun e => fieldText e.2 := by
  rw [normalizeTable_eq, get?_ofPairs, valuesOf_named hname, List.getLast?_map]

end Names

def Contains (h : Value) (t : Table) : Prop :=
  h.toTable = .ok t ∨ ∃ pairs, h = .pairing pairs ∧ Value.tableOf pairs = .ok t

lemma toTable_of_not_truthy {h : Value} {t : Table} (hfalsy : h.truthy = false)
    (ht : h.toTable = .ok t) : t = [] := by
  cases h with
  | map es =>
    cases ht
    simpa [Value.truthy] using hfalsy
  | str s =>
    obtain rfl : s = "" := by simpa [Value.truthy] using hfalsy
    cases ht
    rfl
  | bytes bs =>
    obtain rfl : bs = [] := by simpa [Value.truthy] using hfalsy
    cases ht
    rfl
  | list vs =>
    obtain rfl : vs = [] := by simpa [Value.truthy] using hfalsy
    cases ht
    rfl
  | tuple vs =>
    obtain rfl : vs = [] := by simpa [Value.truthy] using hfalsy
    cases ht
    rfl
  | null => cases ht
  | bool => cases ht
  | int => cases ht
  | float => cases ht
  | record => cases hfalsy
  | pairing => cases hfalsy
  | attachment => cases hfalsy

lemma entries_of_contains {h : Value} {t : Table} (ht : Contains h t) : entries h = .ok t := by
  rcases ht with ht | ⟨pairs, rfl, ht⟩
  · rw [entries.eq_def]
    split
    · next hfalsy => rw [toTable_of_not_truthy (by simpa using hfalsy) ht]
    · split
      · cases ht
      · rw [Value.table?, ht]
        rfl
  · exact ht

theorem value_normalize {h : Value} {t : Table} (ht : Contains h t) {name : String}
    (hname : name ≠ "") (default : String) :
    ∃ headers, normalize h = .ok headers ∧
      value headers.toValue (.str name) default =
        .ok ((t.filter (Named name ·)).getLast?.elim default fun e => Text.strip (fieldText e.2)) ∧
      has headers.toValue (.str name) = .ok (decide (∃ e ∈ t, Named name e)) ∧
      normalize headers.toValue = .ok headers := by
  have hlower : ∀ k ∈ keys (normalizeTable t), Text.lower k = k := fun k hk =>
    (keys_normalizeTable hk).1
  refine ⟨normalizeTable t, ?_, ?_, ?_, ?_⟩
  · rw [normalize, entries_of_contains ht]
    rfl
  · rw [Headers.toValue, value_map _ hname, valueIn_toTable hlower, get?_normalizeTable hname]
    cases (t.filter (Named name ·)).getLast? <;> rfl
  · rw [has_toValue hlower, get?_normalizeTable hname, Option.isSome_map, List.getLast?_filter]
    exact congrArg Except.ok (Bool.eq_iff_iff.mpr (by simp))
  · rw [normalize, Headers.toValue, entries_map]
    exact congrArg Except.ok (normalizeTable_normalized t)

def tags : Table :=
  [(.str "X-Tag", .int 1), (.null, .str "?"), (.str " x-tag ", .str " two "),
    (.str "Accept", .null)]

def tagPairs : Value := .list (tags.map fun e => .tuple [e.1, e.2])

theorem tags_value_normalize :
    Contains tagPairs tags ∧ "X-TAG" ≠ "" ∧ ∃ headers, normalize tagPairs = .ok headers ∧
      value headers.toValue (.str "X-TAG") "none" = .ok "two" ∧
      has headers.toValue (.str "X-TAG") = .ok true ∧
      normalize headers.toValue = .ok headers := by
  have hcontains : Contains tagPairs tags := .inl rfl
  have hne : "X-TAG" ≠ "" := by decide
  have hlast : ((tags.filter (Named "X-TAG" ·)).getLast?.elim "none" fun e =>
      Text.strip (fieldText e.2)) = "two" := by
    decide +kernel
  have hsome : decide (∃ e ∈ tags, Named "X-TAG" e) = true := by decide +kernel
  obtain ⟨headers, hnormal, hvalue, hhas, hagain⟩ := value_normalize hcontains hne "none"
  rw [hlast] at hvalue
  rw [hsome] at hhas
  exact ⟨hcontains, hne, headers, hnormal, hvalue, hhas, hagain⟩

end HttpTemplate.Header
