import HttpTemplate.Proofs.Defaults
import HttpTemplate.Proofs.Text.Case
import Mathlib.Data.Nat.Digits.Defs

/-! Typed values written as text. A whole number in decimal digits and a truth value in any casing,
blanks around them, are read as the value itself, so that a typed variable may be given either. -/

namespace HttpTemplate.TypedText

open Defaults Numeral Parameters Text

structure IsNumeral (digits : List Char) : Prop where
  ne_nil : digits ≠ []
  length_le : digits.length ≤ 4300
  isDigit : ∀ c ∈ digits, c.isDigit = true

def magnitude (digits : List Char) : ℕ :=
  Nat.ofDigits 10 (digits.reverse.map fun c => c.toNat - 0x30)

inductive Signed : List Char → ℤ → Prop
  | unsigned {digits : List Char} : IsNumeral digits → Signed digits (magnitude digits)
  | plus {digits : List Char} : IsNumeral digits → Signed ('+' :: digits) (magnitude digits)
  | minus {digits : List Char} : IsNumeral digits → Signed ('-' :: digits) (-magnitude digits)

def Casing (word : String) (s : List Char) : Prop :=
  List.Forall₂ (fun c d => d = c ∨ d = c.toUpper) word.toList s

def Padded (word : List Char) (text : String) : Prop :=
  ∃ before after, text.toList = before ++ (word ++ after) ∧
    (∀ c ∈ before, isBlank c = true) ∧ ∀ c ∈ after, isBlank c = true

inductive Denotes : Kind → String → Value → Prop
  | number {word : List Char} {text : String} {n : ℤ} :
      Padded word text → Signed word n → Denotes .number text (.int n)
  | boolean {word : List Char} {text : String} (b : Bool) :
      Padded word text → Casing (if b then "true" else "false") word →
      Denotes .boolean text (.bool b)

section Words

variable {word : List Char} {text : String}

lemma trimmed_of_forall {p : Char → Bool} (h : ∀ c ∈ word, p c = false) : Trimmed p word :=
  ⟨fun c hc => h c (List.mem_of_mem_head? hc), fun c hc => h c (List.mem_of_mem_getLast? hc)⟩

lemma trim_of_padded (h : Padded word text) (hne : word ≠ [])
    (hword : ∀ c ∈ word, isBlank c = false) : trim isBlank text.toList = word := by
  obtain ⟨before, after, htext, hbefore, hafter⟩ := h
  rw [htext]
  exact trim_append_append hbefore (trimmed_of_forall hword) hne hafter

end Words

section Numerals

variable {digits word : List Char} {n : ℤ}

lemma ofDigits_eq (digits : List ℕ) : ofDigits digits = Nat.ofDigits 10 digits.reverse := by
  induction digits using List.reverseRecOn with
  | nil => rfl
  | append_singleton digits d ih =>
    have hlast : ofDigits (digits ++ [d]) = 10 * ofDigits digits + d := by simp [ofDigits]
    rw [hlast, ih, List.reverse_concat, Nat.ofDigits_cons, Nat.add_comm]

lemma not_blank_of_digit {c : Char} (h : c.isDigit = true) : isBlank c = false := by
  have hlow : (48 : ℕ) ≤ c.toNat := by
    simp only [Char.isDigit, Bool.and_eq_true, decide_eq_true_eq] at h
    exact h.1
  rw [isBlank, not_space_of_digit h, Bool.false_or, isSeparatorMark, Bool.and_eq_false_iff,
    decide_eq_false_iff_not, decide_eq_false_iff_not]
  omega

lemma wholeValue_digits (h : IsNumeral digits) (negative : Bool) :
    wholeValue (negative, digits.map fun c => c.toNat - 0x30) =
      .ok (if negative then -magnitude digits else magnitude digits) := by
  have hlength : ¬ maxDigits < digits.length := Nat.not_lt.mpr h.length_le
  rw [wholeValue, List.length_map, if_neg hlength, ofDigits_eq, ← List.map_reverse]
  rfl

lemma whole_digits {negative : Bool} (h : IsNumeral digits)
    (hsigned : signed word = (negative, digits)) :
    whole? word = some (negative, digits.map fun c => c.toNat - 0x30) := by
  simp [whole?, hsigned, h.ne_nil, mapM_digitValue h.isDigit]

lemma Signed.read (h : Signed word n) :
    ∃ numeral, whole? word = some numeral ∧ wholeValue numeral = .ok n := by
  cases h with
  | unsigned h => exact ⟨_, whole_digits h (signed_digits h.isDigit), wholeValue_digits h false⟩
  | plus h => exact ⟨_, whole_digits h rfl, wholeValue_digits h false⟩
  | minus h => exact ⟨_, whole_digits h rfl, wholeValue_digits h true⟩

lemma Signed.ne_nil (h : Signed word n) : word ≠ [] := by
  cases h with
  | unsigned h => exact h.ne_nil
  | plus h | minus h => exact List.cons_ne_nil _ _

lemma Signed.not_blank (h : Signed word n) : ∀ c ∈ word, isBlank c = false := by
  cases h with
  | unsigned h => exact fun c hc => not_blank_of_digit (h.isDigit c hc)
  | plus h | minus h =>
    exact List.forall_mem_cons.mpr ⟨by decide, fun c hc => not_blank_of_digit (h.isDigit c hc)⟩

end Numerals

section Casings

variable {word : String} {s : List Char}

def letters : List Char := "truefals".toList

lemma lower_letters : (letters.all fun c => [c, c.toUpper].all fun d =>
    shiftBy lowerRuns d == c && d.toNat != 0x130 && d.toNat != 0x3a3 && !isBlank d) = true := by
  decide +kernel

lemma lower_letter {c d : Char} (hc : c ∈ letters) (hd : d = c ∨ d = c.toUpper) :
    (∀ before after, lowerChar before d after = [c]) ∧ isBlank d = false := by
  have hletter := List.all_eq_true.mp (List.all_eq_true.mp lower_letters c hc) d (by simpa using hd)
  simp only [Bool.and_eq_true, beq_iff_eq, bne_iff_ne, Bool.not_eq_true'] at hletter
  obtain ⟨⟨⟨hshift, hdotted⟩, hsigma⟩, hblank⟩ := hletter
  refine ⟨fun before after => ?_, hblank⟩
  rw [lowerChar, if_neg hdotted, if_neg hsigma, hshift]

lemma lowerFrom_casing {cs ds : List Char} (before : List Char) (hletters : ∀ c ∈ cs, c ∈ letters)
    (h : List.Forall₂ (fun c d => d = c ∨ d = c.toUpper) cs ds) :
    lowerFrom before ds = cs ∧ ∀ d ∈ ds, isBlank d = false := by
  induction h generalizing before with
  | nil => exact ⟨rfl, by simp⟩
  | cons hd _ ih =>
    obtain ⟨hc, hcs⟩ := List.forall_mem_cons.mp hletters
    obtain ⟨hlower, hblank⟩ := lower_letter hc hd
    obtain ⟨hrest, hblanks⟩ := ih (_ :: before) hcs
    exact ⟨by rw [lowerFrom, hlower, hrest, List.singleton_append],
      List.forall_mem_cons.mpr ⟨hblank, hblanks⟩⟩

lemma mem_letters (b : Bool) : ∀ c ∈ (if b then "true" else "false").toList, c ∈ letters := by
  have hall : (if b then "true" else "false").toList.all letters.contains = true := by
    cases b <;> decide
  intro c hc
  exact List.contains_iff_mem.mp (List.all_eq_true.mp hall c hc)

lemma lower_of_casing {b : Bool} {text : String} (hpadded : Padded s text)
    (h : Casing (if b then "true" else "false") s) :
    lower (strip text) = if b then "true" else "false" := by
  obtain ⟨hlower, hblank⟩ := lowerFrom_casing [] (mem_letters b) h
  have hne : s ≠ [] := by
    rintro rfl
    cases b <;> cases h
  rw [strip, trim_of_padded hpadded hne hblank, lower, String.toList_ofList, hlower,
    String.ofList_toList]

end Casings

section Variables

variable {v : Variable} {text : String} {x : Value}

lemma coerce_of_denotes (h : Denotes v.kind text x) : v.coerce (.str text) = .ok x := by
  rw [Variable.coerce, if_neg (by simp [Value.isNull])]
  generalize hkind : v.kind = k at h
  cases h with
  | number hpadded hsigned =>
    obtain ⟨numeral, hwhole, hvalue⟩ := hsigned.read
    simp only [Variable.coerceNumber_str, Variable.coerceText,
      trim_of_padded hpadded hsigned.ne_nil hsigned.not_blank, hwhole, hvalue]
  | boolean b hpadded hcasing =>
    rw [Variable.coerceBoolean_str, lower_of_casing hpadded hcasing]
    cases b <;> rfl

lemma coerce_denoted (h : Denotes v.kind text x) : v.coerce x = .ok x := by
  rw [Variable.coerce]
  generalize hkind : v.kind = k at h
  cases h <;> rfl

lemma resolve_denoted {es : Table} {name : String} (h : v.name = name → Denotes v.kind text x) :
    v.resolve (.map (Entries.put (.str name) (.str text) es)) =
      v.resolve (.map (Entries.put (.str name) x es)) := by
  by_cases hname : v.name = name
  · subst hname
    rw [resolve_of_get? (get?_put_str v.name _ es), resolve_of_get? (get?_put_str v.name _ es),
      coerce_of_denotes (h rfl), coerce_denoted (h rfl)]
  · apply resolve_congr_source
    rw [source_put_of_ne hname, source_put_of_ne hname]

end Variables

theorem denoted_value_of_text [Idna] {k : Kind} {text : String} {x : Value} (h : Denotes k text x) :
    (∀ v : Variable, v.kind = k → v.coerce (.str text) = .ok x) ∧
      ∀ (t : Template) (name : String), (∀ v ∈ t.occurrences, v.name = name → v.kind = k) →
        ∀ es : Table, t.build (.map (Entries.put (.str name) (.str text) es)) =
          t.build (.map (Entries.put (.str name) x es)) := by
  constructor
  · rintro v rfl
    exact coerce_of_denotes h
  · intro t name hkind es
    apply build_congr_resolve
    intro v hv
    exact resolve_denoted fun hname => (hkind v hv hname).symm ▸ h

def order : Template where
  method := "POST"
  url := .ofText "http://a.test/{!n:number}"
  query := Node.compileEntries [(.str "gift", .str "{wrap:boolean} for {n:number}")]
  body := .compile (.map
    [(.str "count", .str "{n=1:number}"), (.str "wrap", .str "{!wrap:boolean}")])
  settings := { timeout := .int 10 }

lemma denotes_count : Denotes .number "\u2003-0042\n" (.int (-42)) := by
  have hdigits : IsNumeral "0042".toList :=
    ⟨by decide, by decide, List.all_eq_true.mp (by decide)⟩
  have hpadded : Padded "-0042".toList "\u2003-0042\n" :=
    ⟨['\u2003'], ['\n'], rfl, List.all_eq_true.mp (by decide), List.all_eq_true.mp (by decide)⟩
  exact .number hpadded (.minus hdigits)

lemma denotes_wrap : Denotes .boolean "\tTrUe " (.bool true) := by
  have hpadded : Padded "TrUe".toList "\tTrUe " :=
    ⟨['\t'], [' '], rfl, List.all_eq_true.mp (by decide), List.all_eq_true.mp (by decide)⟩
  exact .boolean true hpadded
    (.cons (.inr rfl) (.cons (.inl rfl) (.cons (.inr rfl) (.cons (.inl rfl) .nil))))

lemma kind_of_order : ∀ v ∈ order.occurrences,
    (v.name = "n" → v.kind = .number) ∧ (v.name = "wrap" → v.kind = .boolean) := by
  decide +kernel

open scoped Idna in
theorem order_of_text :
    let es : Table := [(.str "wrap", .bool true)]
    let ds : Table := [(.str "n", .int (-42))]
    (Denotes .number "\u2003-0042\n" (.int (-42)) ∧
      (∀ v ∈ order.occurrences, v.name = "n" → v.kind = .number) ∧
      order.build (.map (Entries.put (.str "n") (.str "\u2003-0042\n") es)) =
        order.build (.map (Entries.put (.str "n") (.int (-42)) es))) ∧
    (Denotes .boolean "\tTrUe " (.bool true) ∧
      (∀ v ∈ order.occurrences, v.name = "wrap" → v.kind = .boolean) ∧
      order.build (.map (Entries.put (.str "wrap") (.str "\tTrUe ") ds)) =
        order.build (.map (Entries.put (.str "wrap") (.bool true) ds))) ∧
    ∃ request, order.build (.map (Entries.put (.str "n") (.int (-42)) es)) = .ok request ∧
      request.url = "http://a.test/-42?gift=true+for+-42" := by
  intro es ds
  have hn : ∀ v ∈ order.occurrences, v.name = "n" → v.kind = .number :=
    fun v hv => (kind_of_order v hv).1
  have hwrap : ∀ v ∈ order.occurrences, v.name = "wrap" → v.kind = .boolean :=
    fun v hv => (kind_of_order v hv).2
  have hurl : (order.build (.map (Entries.put (.str "n") (.int (-42)) es))).toOption.map (·.url) =
      some "http://a.test/-42?gift=true+for+-42" := by
    decide +kernel
  obtain ⟨request, hrequest, hurl⟩ := Option.map_eq_some_iff.mp hurl
  exact ⟨⟨denotes_count, hn, (denoted_value_of_text denotes_count).2 order "n" hn es⟩,
    ⟨denotes_wrap, hwrap, (denoted_value_of_text denotes_wrap).2 order "wrap" hwrap ds⟩,
    request, Faults.toOption_eq_some.mp hrequest, hurl⟩

end HttpTemplate.TypedText
