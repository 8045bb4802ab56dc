import HttpTemplate.Number.Numeral
import Mathlib.Algebra.Group.Nat.Defs
import Mathlib.Data.List.Basic
import Mathlib.Data.List.Induction

/-! Whole numbers in decimal digits are numerals of themselves, as long as they have no more digits
than a numeral may have. -/

namespace HttpTemplate

namespace Text

lemma trim_of_forall {p : Char → Bool} {s : List Char} (h : ∀ c ∈ s, p c = false) :
    trim p s = s := by
  have hdrop : ∀ t : List Char, (∀ c ∈ t, p c = false) → t.dropWhile p = t := by
    intro t ht
    cases t with
    | nil => rfl
    | cons c t => simp [ht c List.mem_cons_self]
  have hrev : ∀ c ∈ s.reverse, p c = false := fun c hc => h c (List.mem_reverse.mp hc)
  rw [trim, hdrop s h, hdrop s.reverse hrev, List.reverse_reverse]

lemma digitValue_of_isDigit {c : Char} (h : c.isDigit = true) :
    digitValue? c = some (c.toNat - 0x30) := by
  have hbounds : 0x30 ≤ c.toNat ∧ c.toNat < 0x30 + 10 := by
    simp only [Char.isDigit, Bool.and_eq_true, decide_eq_true_eq] at h
    have hlow : (48 : Nat) ≤ c.toNat := h.1
    have hhigh : c.toNat ≤ 57 := h.2
    omega
  simp [digitValue?, decimalZeros, hbounds]

lemma digitValue_lt {c : Char} {d : Nat} (h : digitValue? c = some d) : d < 10 := by
  obtain ⟨z, hz, rfl⟩ := Option.map_eq_some_iff.mp h
  have hbounds := List.find?_some hz
  simp only [Bool.and_eq_true, decide_eq_true_eq] at hbounds
  omega

lemma ofDigits_lt {digits : List Nat} (h : ∀ d ∈ digits, d < 10) :
    ofDigits digits < 10 ^ digits.length := by
  induction digits using List.reverseRecOn with
  | nil => decide
  | append_singleton digits d ih =>
    have hlast : d < 10 := h d (by simp)
    have hlt := ih fun c hc => h c (List.mem_append_left _ hc)
    have hvalue : ofDigits (digits ++ [d]) = 10 * ofDigits digits + d := by simp [ofDigits]
    rw [hvalue, List.length_append, List.length_singleton, Nat.pow_succ]
    omega

lemma ofDigits_map_toNat (digits : List Char) :
    ofDigits (digits.map fun c => c.toNat - 0x30) = Nat.ofDigitChars 10 digits 0 := by
  rw [ofDigits, List.foldl_map]
  rfl

end Text

namespace Numeral

open Text

section Digits

variable {digits : List Char}

lemma not_space_of_digit {c : Char} (h : c.isDigit = true) : isSpace c = false := by
  simp only [Char.isDigit, Bool.and_eq_true, decide_eq_true_eq] at h
  have hlow : (48 : Nat) ≤ c.toNat := h.1
  have hhigh : c.toNat ≤ 57 := h.2
  simp only [isSpace, Bool.or_eq_false_iff, Bool.and_eq_false_iff, decide_eq_false_iff_not,
    beq_eq_false_iff_ne]
  omega

lemma dropUnderscores_of_notMem {s : List Char} {previous : Option Char}
    (hprevious : previous.any isUnderscore = false) (h : '_' ∉ s) :
    dropUnderscores? previous s = some s := by
  induction s generalizing previous with
  | nil => simp [dropUnderscores?, hprevious]
  | cons c s ih =>
    obtain ⟨hc, hs⟩ := not_or.mp (mt List.mem_cons.mpr h)
    have hunder : isUnderscore c = false := by simpa [isUnderscore] using Ne.symm hc
    have htail : dropUnderscores? (some c) s = some s := ih (by simpa using hunder) hs
    simp [dropUnderscores?, hunder, hprevious, htail]

lemma body_of_plain {s : List Char} (hspace : ∀ c ∈ s, isSpace c = false) (hunder : '_' ∉ s) :
    body? s = some s := by
  rw [body?, trim_of_forall hspace]
  exact dropUnderscores_of_notMem rfl hunder

lemma signed_digits (h : ∀ c ∈ digits, c.isDigit = true) : signed digits = (false, digits) := by
  rw [signed.eq_def]
  split
  · exact absurd (h _ List.mem_cons_self) (by decide)
  · exact absurd (h _ List.mem_cons_self) (by decide)
  · rfl

lemma mapM_digitValue (h : ∀ c ∈ digits, c.isDigit = true) :
    digits.mapM digitValue? = some (digits.map fun c => c.toNat - 0x30) := by
  induction digits with
  | nil => rfl
  | cons c digits ih =>
    have hc := digitValue_of_isDigit (h c List.mem_cons_self)
    have hdigits := ih fun d hd => h d (List.mem_cons_of_mem _ hd)
    simp [List.mapM_cons, hc, hdigits]

lemma readInt_signed {s : List Char} {negative : Bool} (hsigned : signed s = (negative, digits))
    (hs : ∀ c ∈ s, c ∈ digits ∨ c = '-') (hdigits : ∀ c ∈ digits, c.isDigit = true)
    (hne : digits ≠ []) :
    readInt s = wholeValue (negative, digits.map fun c => c.toNat - 0x30) := by
  have hspace : ∀ c ∈ s, isSpace c = false := by
    intro c hc
    rcases hs c hc with hc | rfl
    · exact not_space_of_digit (hdigits c hc)
    · decide
  have hunder : '_' ∉ s := by
    intro hmem
    rcases hs _ hmem with hc | hc
    · exact absurd (hdigits _ hc) (by decide)
    · exact absurd hc (by decide)
  have hwhole : whole? s = some (negative, digits.map fun c => c.toNat - 0x30) := by
    simp [whole?, hsigned, hne, mapM_digitValue hdigits]
  simp only [readInt, body_of_plain hspace hunder, Option.bind_eq_bind, Option.bind_some, hwhole]

end Digits

lemma wholeValue_toDigits (negative : Bool) (n : Nat) :
    wholeValue (negative, (Nat.toDigits 10 n).map fun c => c.toNat - 0x30) =
      if maxDigits < (Nat.toDigits 10 n).length then .error (.oversized (Nat.toDigits 10 n).length)
      else .ok (if negative then -(n : Int) else n) := by
  rw [wholeValue, ofDigits_map_toNat, Nat.ofDigitChars_ten_toDigits, List.length_map]

lemma length_of_wholeValue {negative : Bool} {digits : List Nat} {n : Int}
    (hdigits : ∀ d ∈ digits, d < 10) (h : wholeValue (negative, digits) = .ok n) :
    (Nat.toDigits 10 n.natAbs).length ≤ maxDigits := by
  have hpos : 0 < maxDigits := by decide
  rw [wholeValue] at h
  split at h
  · cases h
  · next hlength =>
    have hvalue : n.natAbs = ofDigits digits := by
      rw [← Except.ok.inj h]
      split <;> omega
    rw [hvalue, Nat.length_toDigits_le_iff (by decide) hpos]
    exact Nat.lt_of_lt_of_le (ofDigits_lt hdigits)
      (Nat.pow_le_pow_right (by decide) (Nat.not_lt.mp hlength))

lemma decimalInt_toList (n : Int) :
    (decimalInt n).toList =
      (if n < 0 then ['-'] else []) ++ Nat.toDigits 10 n.natAbs := by
  by_cases hn : n < 0 <;> simp [decimalInt, hn, decimal]

lemma isDigit_of_mem_toDigits {n : Nat} {c : Char} (h : c ∈ Nat.toDigits 10 n) :
    c.isDigit = true :=
  Nat.isDigit_of_mem_toDigits (by decide) (by decide) h

lemma mem_decimalInt {n : Int} {c : Char} (h : c ∈ (decimalInt n).toList) :
    c = '-' ∨ c.isDigit = true := by
  rw [decimalInt_toList] at h
  rcases List.mem_append.mp h with h | h
  · split at h
    · exact .inl (List.mem_singleton.mp h)
    · cases h
  · exact .inr (isDigit_of_mem_toDigits h)

lemma decimalInt_ne_nil (n : Int) : (decimalInt n).toList ≠ [] := by
  rw [decimalInt_toList]
  exact List.append_ne_nil_of_right_ne_nil _ Nat.toDigits_ne_nil

lemma readInt_decimalInt (n : Int) :
    readInt (decimalInt n).toList =
      if maxDigits < (Nat.toDigits 10 n.natAbs).length then
        .error (.oversized (Nat.toDigits 10 n.natAbs).length)
      else .ok n := by
  have hdigits : ∀ c ∈ Nat.toDigits 10 n.natAbs, c.isDigit = true := fun c hc =>
    isDigit_of_mem_toDigits hc
  have hne : Nat.toDigits 10 n.natAbs ≠ [] := Nat.toDigits_ne_nil
  rw [decimalInt_toList]
  by_cases hn : n < 0
  · have hsigned : signed ('-' :: Nat.toDigits 10 n.natAbs) = (true, Nat.toDigits 10 n.natAbs) := rfl
    have hvalue : -(n.natAbs : Int) = n := by omega
    rw [if_pos hn, List.singleton_append,
      readInt_signed hsigned (fun c hc => (List.mem_cons.mp hc).symm) hdigits hne,
      wholeValue_toDigits]
    simp only [if_true, hvalue]
  · have hvalue : (n.natAbs : Int) = n := by omega
    rw [if_neg hn, List.nil_append,
      readInt_signed (signed_digits hdigits) (fun c hc => .inl hc) hdigits hne,
      wholeValue_toDigits]
    simp only [Bool.false_eq_true, if_false, hvalue]

end Numeral

end HttpTemplate
