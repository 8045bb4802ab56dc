import HttpTemplate.Proofs.Number.Numeral
import HttpTemplate.Proofs.Parameters

/-! What a variable resolves to. It starts from its argument, else from its default, and the kind
bounds what comes out. A number may be written with any digits and blanks, but a whole numeral with
more digits than are read is no number of any kind, and what it ends with is no fault of coercion.
So it is with a value that is read as a text and has none, as a whole number in it has too many
digits. -/

namespace HttpTemplate.Coercion

open Numeral Parameters Text

def source? (v : Variable) (es : Table) : Option Value :=
  (Entries.get? (.str v.name) es).or (v.default.map Value.str)

/-- How a variable may end. A string is what it starts from, or empty; a number is null, whole or
finite, or the empty text that stands for no number. -/
inductive Permitted (v : Variable) (es : Table) : Except VariableFault Value → Prop
  | missing : source? v es = none → v.required = true → Permitted v es (.error (.missing v.name))
  | uncoercible {value : Value} : v.kind = .number → source? v es = some value →
      Permitted v es (.error (.uncoercible v.name value .number))
  | null : Entries.get? (.str v.name) es = some .null → Permitted v es (.ok .null)
  | whole {value : Value} (n : Int) : v.kind = .number → source? v es = some value →
      Permitted v es (.ok (.int n))
  | real {value : Value} (x : Binary64) : v.kind = .number → source? v es = some value →
      x.isFinite = true → Permitted v es (.ok (.float x))
  | blank : v.kind = .number → source? v es = none → v.required = false →
      Permitted v es (.ok (.str ""))
  | boolean (b : Bool) : v.kind = .boolean → Permitted v es (.ok (.bool b))
  | string {value : Value} : v.kind = .string → source? v es = some value →
      Permitted v es (.ok value)
  | empty : v.kind = .string → source? v es = none → v.required = false →
      Permitted v es (.ok (.str ""))

def IsWhole (s : List Char) (count : Nat) : Prop :=
  ∃ sign digits, s = sign ++ digits ∧ (sign = [] ∨ sign = ['+'] ∨ sign = ['-']) ∧
    (∀ c ∈ digits, isDigit c = true) ∧ digits.length = count

/-- A number variable starts from a text that is a whole numeral, blanks around it apart, with more
digits than are read. -/
def Oversized (v : Variable) (es : Table) (count : Nat) : Prop :=
  v.kind = .number ∧ maxDigits < count ∧ ∃ value, source? v es = some value ∧
    value.numeric? = none ∧ value.isWritable = true ∧
    IsWhole (trim isBlank value.text.toList) count

/-- What the variable starts from has no text, where its text is what counts. -/
def Unwritten (v : Variable) (es : Table) : Prop :=
  ∃ value, source? v es = some value ∧ value.isWritable = false ∧
    (v.kind = .boolean ∨ v.kind = .number ∧ value.numeric? = none)

section Numerals

variable {s digits : List Char}

lemma mapM_digitValue_isSome (h : ∀ c ∈ digits, isDigit c = true) :
    ∃ ds, digits.mapM digitValue? = some ds ∧ ds.length = digits.length := by
  induction digits with
  | nil => exact ⟨[], rfl, rfl⟩
  | cons c digits ih =>
    obtain ⟨d, hd⟩ := Option.isSome_iff_exists.mp (h c List.mem_cons_self)
    obtain ⟨ds, hds, hlength⟩ := ih fun c hc => h c (List.mem_cons_of_mem _ hc)
    exact ⟨d :: ds, by simp [List.mapM_cons, hd, hds], by simp [hlength]⟩

lemma isDigit_of_mapM {ds : List Nat} (h : digits.mapM digitValue? = some ds) :
    (∀ c ∈ digits, isDigit c = true) ∧ digits.length = ds.length := by
  induction digits generalizing ds with
  | nil =>
    cases h
    exact ⟨by simp, rfl⟩
  | cons c digits ih =>
    rw [List.mapM_cons] at h
    obtain ⟨d, hd, h⟩ := Option.bind_eq_some_iff.mp h
    obtain ⟨rest, hrest, h⟩ := Option.bind_eq_some_iff.mp h
    cases h
    obtain ⟨hdigits, hlength⟩ := ih hrest
    refine ⟨?_, by simp [hlength]⟩
    intro b hb
    rcases List.mem_cons.mp hb with rfl | hb
    · rw [isDigit, hd]
      rfl
    · exact hdigits b hb

lemma signed_of_digits (h : ∀ c ∈ digits, isDigit c = true) : signed digits = (false, digits) := by
  rw [signed.eq_def]
  split
  · exact absurd (h '-' List.mem_cons_self) (by decide)
  · exact absurd (h '+' List.mem_cons_self) (by decide)
  · rfl

lemma signed_append {sign : List Char} (hsign : sign = [] ∨ sign = ['+'] ∨ sign = ['-'])
    (h : ∀ c ∈ digits, isDigit c = true) : ∃ negative, signed (sign ++ digits) = (negative, digits) := by
  rcases hsign with rfl | rfl | rfl
  · exact ⟨false, signed_of_digits h⟩
  · exact ⟨false, rfl⟩
  · exact ⟨true, rfl⟩

lemma eq_append_of_signed {negative : Bool} (h : signed s = (negative, digits)) :
    ∃ sign, s = sign ++ digits ∧ (sign = [] ∨ sign = ['+'] ∨ sign = ['-']) := by
  rw [signed.eq_def] at h
  split at h
  · cases h
    exact ⟨['-'], rfl, .inr (.inr rfl)⟩
  · cases h
    exact ⟨['+'], rfl, .inr (.inl rfl)⟩
  · cases h
    exact ⟨[], rfl, .inl rfl⟩

lemma isWhole_of_whole {negative : Bool} {ds : List Nat} (h : whole? s = some (negative, ds)) :
    IsWhole s ds.length := by
  rw [whole?] at h
  split at h
  next negative' digits hsigned =>
  split at h
  · cases h
  · obtain ⟨ds', hds, h⟩ := Option.map_eq_some_iff.mp h
    cases h
    obtain ⟨sign, hs, hsign⟩ := eq_append_of_signed hsigned
    obtain ⟨hdigits, hlength⟩ := isDigit_of_mapM hds
    exact ⟨sign, digits, hs, hsign, hdigits, hlength⟩

lemma whole_of_isWhole {count : Nat} (h : IsWhole s count) (hcount : 0 < count) :
    ∃ negative ds, whole? s = some (negative, ds) ∧ ds.length = count := by
  obtain ⟨sign, digits, rfl, hsign, hdigits, rfl⟩ := h
  obtain ⟨negative, hsigned⟩ := signed_append hsign hdigits
  obtain ⟨ds, hds, hlength⟩ := mapM_digitValue_isSome hdigits
  have hne : digits ≠ [] := List.ne_nil_of_length_pos hcount
  exact ⟨negative, ds, by simp [whole?, hsigned, hne, hds], hlength⟩

end Numerals

section Kinds

variable {v : Variable} {es : Table} {value : Value} {s : List Char}

lemma coerceText_oversized {count : Nat} (h : IsWhole s count) (hcount : maxDigits < count) :
    v.coerceText value s = .error (.oversized count) := by
  obtain ⟨negative, ds, hwhole, rfl⟩ := whole_of_isWhole h (Nat.zero_lt_of_lt hcount)
  simp only [Variable.coerceText, hwhole, wholeValue, if_pos hcount]

lemma permitted_finite (hkind : v.kind = .number) (hsource : source? v es = some value)
    (x : Binary64) : Permitted v es (v.finite value x) := by
  rw [Variable.finite]
  split
  · next hfinite => exact .real x hkind hsource hfinite
  · rw [hkind]
    exact .uncoercible hkind hsource

lemma permitted_coerceText (hkind : v.kind = .number) (hsource : source? v es = some value)
    (hs : ∀ count, IsWhole s count → count ≤ maxDigits) :
    Permitted v es (v.coerceText value s) := by
  rw [Variable.coerceText]
  split
  · next numeral hwhole =>
    obtain ⟨negative, ds⟩ := numeral
    have hcount : ¬ maxDigits < ds.length := Nat.not_lt.mpr (hs _ (isWhole_of_whole hwhole))
    rw [wholeValue, if_neg hcount]
    exact .whole _ hkind hsource
  · split
    · next x _ => exact permitted_finite hkind hsource x
    · rw [hkind]
      exact .uncoercible hkind hsource

lemma coerceNumber_of_text (h : value.numeric? = none) :
    v.coerceNumber value =
      if value.isWritable then v.coerceText value (trim isBlank value.text.toList)
      else .error (.misuse .oversized) := by
  rw [Variable.coerceNumber.eq_def]
  split
  · cases h
  · cases h
  · cases h
  · exact Value.written_bind ..

lemma coerceBoolean_of_unwritten (h : value.isWritable = false) :
    Variable.coerceBoolean value = .error (.misuse .oversized) := by
  rw [Variable.coerceBoolean.eq_def]
  split
  · cases h
  · rw [Value.written_bind, h]
    rfl

lemma permitted_coerceNumber (hkind : v.kind = .number) (hsource : source? v es = some value)
    (hvalue : value.numeric? = none → value.isWritable = true ∧ ∀ count,
      IsWhole (trim isBlank value.text.toList) count → count ≤ maxDigits) :
    Permitted v es (v.coerceNumber value) := by
  cases hnumeric : value.numeric? with
  | none =>
    obtain ⟨hwritable, hcount⟩ := hvalue hnumeric
    rw [coerceNumber_of_text hnumeric, if_pos hwritable]
    exact permitted_coerceText hkind hsource hcount
  | some n =>
    cases value with
    | bool b =>
      rw [Variable.coerceNumber, hkind]
      exact .uncoercible hkind hsource
    | int n => exact .whole n hkind hsource
    | float x => exact permitted_finite hkind hsource x
    | _ => cases hnumeric

lemma permitted_coerceBoolean (hkind : v.kind = .boolean) (h : value.isWritable = true) :
    Permitted v es (Variable.coerceBoolean value) := by
  rw [Variable.coerceBoolean.eq_def]
  split
  · exact .boolean _ hkind
  · rw [Value.written_bind, if_pos h]
    exact .boolean _ hkind

lemma get?_of_source_null (h : source? v es = some .null) :
    Entries.get? (.str v.name) es = some .null := by
  rcases Option.or_eq_some_iff.mp h with h | ⟨-, h⟩
  · exact h
  · obtain ⟨text, -, h⟩ := Option.map_eq_some_iff.mp h
    cases h

lemma resolve_of_source (h : source? v es = some value) :
    v.resolve (.map es) = v.coerce value := by
  rw [source?] at h
  rw [Variable.resolve, lookup_map]
  cases hargument : Entries.get? (.str v.name) es with
  | some x =>
    rw [hargument, Option.some_or] at h
    cases h
    rfl
  | none =>
    rw [hargument, Option.none_or] at h
    obtain ⟨text, hdefault, rfl⟩ := Option.map_eq_some_iff.mp h
    rw [hdefault]

lemma resolve_of_no_source (h : source? v es = none) :
    v.resolve (.map es) =
      if v.required then .error (.missing v.name)
      else if v.kind = .number then .ok (.str "") else v.coerce (.str "") := by
  obtain ⟨hargument, hdefault⟩ := Option.or_eq_none_iff.mp h
  rw [Variable.resolve, lookup_map, hargument, Option.map_eq_none_iff.mp hdefault]

lemma not_isWhole_null {count : Nat} (h : IsWhole (trim isBlank Value.null.text.toList) count) :
    count = 0 := by
  have hnone : whole? (trim isBlank Value.null.text.toList) = none := by decide +kernel
  by_contra hcount
  obtain ⟨negative, ds, hwhole, -⟩ := whole_of_isWhole h (Nat.pos_of_ne_zero hcount)
  rw [hnone] at hwhole
  cases hwhole

lemma resolve_oversized {count : Nat} (h : Oversized v es count) :
    v.resolve (.map es) = .error (.oversized count) := by
  obtain ⟨hkind, hcount, value, hsource, hnumeric, hwritable, hwhole⟩ := h
  have hnull : ¬ value.isNull = true := by
    rw [Value.isNull_iff]
    rintro rfl
    have hzero := not_isWhole_null hwhole
    omega
  rw [resolve_of_source hsource, Variable.coerce, if_neg hnull, hkind]
  rw [coerceNumber_of_text hnumeric, if_pos hwritable]
  exact coerceText_oversized hwhole hcount

lemma resolve_unwritten (h : Unwritten v es) :
    v.resolve (.map es) = .error (.misuse .oversized) := by
  obtain ⟨value, hsource, hwritable, hkind⟩ := h
  have hnull : ¬ value.isNull = true := by
    rw [Value.isNull_iff]
    rintro rfl
    cases hwritable
  rw [resolve_of_source hsource, Variable.coerce, if_neg hnull]
  rcases hkind with hkind | ⟨hkind, hnumeric⟩
  · rw [hkind]
    exact coerceBoolean_of_unwritten hwritable
  · rw [hkind]
    exact (coerceNumber_of_text hnumeric).trans (if_neg (Bool.eq_false_iff.mp hwritable))

lemma permitted_coerce (hsource : source? v es = some value) (h : ¬ ∃ count, Oversized v es count)
    (hw : ¬ Unwritten v es) : Permitted v es (v.coerce value) := by
  rw [Variable.coerce]
  split
  · next hnull =>
    rw [Value.isNull_iff] at hnull
    exact .null (get?_of_source_null (hnull ▸ hsource))
  · cases hkind : v.kind with
    | number =>
      apply permitted_coerceNumber hkind hsource
      intro hnumeric
      have hwritable : value.isWritable = true :=
        Bool.of_not_eq_false fun hfalse => hw ⟨value, hsource, hfalse, .inr ⟨hkind, hnumeric⟩⟩
      refine ⟨hwritable, fun count hwhole => ?_⟩
      by_contra hcount
      exact h ⟨count, hkind, Nat.not_le.mp hcount, value, hsource, hnumeric, hwritable, hwhole⟩
    | boolean =>
      apply permitted_coerceBoolean hkind
      exact Bool.of_not_eq_false fun hfalse => hw ⟨value, hsource, hfalse, .inl hkind⟩
    | string => exact .string hkind hsource

lemma permitted_resolve (h : ¬ ∃ count, Oversized v es count) (hw : ¬ Unwritten v es) :
    Permitted v es (v.resolve (.map es)) := by
  cases hsource : source? v es with
  | some value =>
    rw [resolve_of_source hsource]
    exact permitted_coerce hsource h hw
  | none =>
    rw [resolve_of_no_source hsource]
    split
    · next hrequired => exact .missing hsource hrequired
    · next hrequired =>
      have hrequired : v.required = false := Bool.eq_false_iff.mpr hrequired
      cases hkind : v.kind with
      | number => exact .blank hkind hsource hrequired
      | boolean => 
        have hempty : Permitted v es (Variable.coerceBoolean (.str "")) :=
          permitted_coerceBoolean hkind rfl
        simpa [Variable.coerce, hkind, Value.isNull] using hempty
      | string => simpa [Variable.coerce, hkind, Value.isNull] using .empty hkind hsource hrequired

lemma resolve_missing_iff {name : String} :
    v.resolve (.map es) = .error (.missing name) ↔
      name = v.name ∧ source? v es = none ∧ v.required = true := by
  constructor
  · intro h
    cases hsource : source? v es with
    | some value =>
      rw [resolve_of_source hsource] at h
      cases coerce_fault h
    | none =>
      rw [resolve_of_no_source hsource] at h
      split at h
      · next hrequired =>
        cases h
        exact ⟨rfl, rfl, hrequired⟩
      · split at h
        · cases h
        · cases coerce_fault h
  · rintro ⟨rfl, hsource, hrequired⟩
    rw [resolve_of_no_source hsource, if_pos hrequired]

lemma permitted_iff : Permitted v es (v.resolve (.map es)) ↔
    (¬ ∃ count, Oversized v es count) ∧ ¬ Unwritten v es := by
  refine ⟨fun hpermitted => ⟨?_, fun h => ?_⟩, fun ⟨h, hw⟩ => permitted_resolve h hw⟩
  · rintro ⟨count, h⟩
    rw [resolve_oversized h] at hpermitted
    cases hpermitted
  · rw [resolve_unwritten h] at hpermitted
    cases hpermitted

lemma not_permitted (h : ¬ Permitted v es (v.resolve (.map es))) :
    (∃ count, Oversized v es count ∧ v.resolve (.map es) = .error (.oversized count)) ∨
      (Unwritten v es ∧ v.resolve (.map es) = .error (.misuse .oversized)) := by
  by_cases hw : Unwritten v es
  · exact .inr ⟨hw, resolve_unwritten hw⟩
  · obtain ⟨count, hcount⟩ := not_not.mp fun hnone => h (permitted_iff.mpr ⟨hnone, hw⟩)
    exact .inl ⟨count, hcount, resolve_oversized hcount⟩

lemma resolve_oversized_iff {count : Nat} :
    v.resolve (.map es) = .error (.oversized count) ↔ Oversized v es count := by
  refine ⟨fun h => ?_, resolve_oversized⟩
  have hforbidden : ¬ Permitted v es (v.resolve (.map es)) := by
    rw [h]
    rintro ⟨⟩
  rcases not_permitted hforbidden with ⟨count', hcount, hresolve⟩ | ⟨-, hresolve⟩
  · cases hresolve.symm.trans h
    exact hcount
  · cases hresolve.symm.trans h

lemma resolve_unwritten_iff :
    v.resolve (.map es) = .error (.misuse .oversized) ↔ Unwritten v es := by
  refine ⟨fun h => ?_, resolve_unwritten⟩
  have hforbidden : ¬ Permitted v es (v.resolve (.map es)) := by
    rw [h]
    rintro ⟨⟩
  rcases not_permitted hforbidden with ⟨count, -, hresolve⟩ | ⟨hw, -⟩
  · cases hresolve.symm.trans h
  · exact hw

end Kinds

theorem resolve_permitted_iff (v : Variable) (es : Table) :
    (∀ name, v.resolve (.map es) = .error (.missing name) ↔
        name = v.name ∧ source? v es = none ∧ v.required = true) ∧
      (Permitted v es (v.resolve (.map es)) ↔
        (¬ ∃ count, Oversized v es count) ∧ ¬ Unwritten v es) ∧
      (∀ count, v.resolve (.map es) = .error (.oversized count) ↔ Oversized v es count) ∧
      (v.resolve (.map es) = .error (.misuse .oversized) ↔ Unwritten v es) :=
  ⟨fun _ => resolve_missing_iff, permitted_iff, fun _ => resolve_oversized_iff,
    resolve_unwritten_iff⟩

def longNumeral : String := String.ofList (List.replicate (maxDigits + 1) '1')

lemma isWhole_longNumeral : IsWhole (trim isBlank longNumeral.toList) (maxDigits + 1) := by
  have hdigits : ∀ c ∈ List.replicate (maxDigits + 1) '1', c = '1' := fun _ => List.eq_of_mem_replicate
  rw [longNumeral, String.toList_ofList, trim_of_forall]
  · refine ⟨[], List.replicate (maxDigits + 1) '1', List.nil_append _ |>.symm, .inl rfl, ?_,
      List.length_replicate⟩
    intro c hc
    rw [hdigits c hc]
    decide
  · intro c hc
    rw [hdigits c hc]
    decide

theorem long_numeral_escapes :
    let v : Variable := { name := "n", kind := .number }
    let es : Table := [(.str "n", .str longNumeral)]
    v.resolve (.map es) = .error (.oversized 4301) ∧ ¬ Permitted v es (v.resolve (.map es)) := by
  intro v es
  have hoversized : Oversized v es (maxDigits + 1) :=
    ⟨rfl, Nat.lt_succ_self _, .str longNumeral, rfl, rfl, rfl, isWhole_longNumeral⟩
  have hresolve : v.resolve (.map es) = .error (.oversized 4301) := resolve_oversized hoversized
  refine ⟨hresolve, fun hpermitted => ?_⟩
  rw [hresolve] at hpermitted
  cases hpermitted

end HttpTemplate.Coercion
