import HttpTemplate.Json.Read
import HttpTemplate.Json.Write
import HttpTemplate.Proofs.Number.Numeral
import HttpTemplate.Proofs.Text.Split

/-! Words and whole numbers of JSON read back. A number ends where text follows that does not go on
with it. -/

namespace HttpTemplate.Json

def Ended (rest : List Char) : Prop :=
  ∀ c ∈ rest.head?, isDigit c = false ∧ c ≠ '.' ∧ c ≠ 'e' ∧ c ≠ 'E'

section Digits

variable {rest digits : List Char}

lemma toDigits_of_pos {n : Nat} (h : 0 < n) :
    ∃ c ds, Nat.toDigits 10 n = c :: ds ∧ c ≠ '0' := by
  induction n using Nat.strongRecOn with
  | ind n ih =>
    rw [Nat.toDigits_eq_if (by decide)]
    split
    · next hlt =>
      have hne : ∀ d < 10, 0 < d → Nat.digitChar d ≠ '0' := by decide
      exact ⟨_, [], rfl, hne n hlt h⟩
    · next hge =>
      obtain ⟨c, ds, hds, hc⟩ := ih (n / 10) (by omega) (by omega)
      exact ⟨c, ds ++ [Nat.digitChar (n % 10)], by rw [hds, List.cons_append], hc⟩

lemma takeDigits_of_head (hdigits : ∀ c ∈ digits, isDigit c = true)
    (hrest : ∀ c ∈ rest.head?, isDigit c = false) :
    takeDigits (digits ++ rest) = (digits, rest) := by
  cases rest with
  | nil =>
    rw [List.append_nil, takeDigits, Text.takeWhile_of_forall hdigits,
      Text.dropWhile_of_forall hdigits]
  | cons c rest =>
    have hc := hrest c rfl
    rw [takeDigits, Text.takeWhile_append_cons hc, Text.dropWhile_append_cons hc,
      Text.takeWhile_of_forall hdigits, Text.dropWhile_of_forall hdigits, List.nil_append]

lemma wholePart_of_head {c : Char} (hc : c ≠ '0') (hdigits : ∀ d ∈ c :: digits, isDigit d = true)
    (hrest : ∀ c ∈ rest.head?, isDigit c = false) :
    wholePart? (c :: digits ++ rest) = some (c :: digits, rest) := by
  have htake := takeDigits_of_head hdigits hrest
  rw [wholePart?.eq_def]
  split
  · next heq => exact absurd (List.cons.inj heq).1 hc
  · rw [htake]
    rfl

lemma isDigit_of_mem_toDigits {n : Nat} {c : Char} (h : c ∈ Nat.toDigits 10 n) :
    isDigit c = true :=
  Numeral.isDigit_of_mem_toDigits h

lemma wholePart_toDigits (n : Nat) (hrest : Ended rest) :
    wholePart? (Nat.toDigits 10 n ++ rest) = some (Nat.toDigits 10 n, rest) := by
  rcases Nat.eq_zero_or_pos n with rfl | hpos
  · rfl
  · obtain ⟨c, ds, hds, hc⟩ := toDigits_of_pos hpos
    rw [hds]
    exact wholePart_of_head hc (fun d hd => isDigit_of_mem_toDigits (n := n) (hds ▸ hd))
      fun c hc => (hrest c hc).1

lemma fractionPart_ended (hrest : Ended rest) : fractionPart rest = (none, rest) := by
  rw [fractionPart.eq_def]
  split
  · exact absurd rfl (hrest '.' rfl).2.1
  · rfl

lemma powerPart_ended (hrest : Ended rest) : powerPart rest = (none, rest) := by
  cases rest with
  | nil => rfl
  | cons c s =>
    obtain ⟨-, -, he, hE⟩ := hrest c rfl
    simp [powerPart, he, hE]

lemma digitValues_of_digits (hdigits : ∀ c ∈ digits, isDigit c = true) :
    digits.filterMap Text.digitValue? = digits.map fun c => c.toNat - 0x30 := by
  induction digits with
  | nil => rfl
  | cons c digits ih =>
    rw [List.forall_mem_cons] at hdigits
    rw [List.filterMap_cons_some (Text.digitValue_of_isDigit hdigits.1), ih hdigits.2,
      List.map_cons]

lemma digitValues_toDigits (n : Nat) :
    (Nat.toDigits 10 n).filterMap Text.digitValue? =
      (Nat.toDigits 10 n).map fun c => c.toNat - 0x30 :=
  digitValues_of_digits fun _ => isDigit_of_mem_toDigits

section Numbers

variable {n : Nat} (hn : (Nat.toDigits 10 n).length ≤ Numeral.maxDigits) (hrest : Ended rest)

include hn hrest

lemma number_toDigits :
    number? (Nat.toDigits 10 n ++ rest) = some (.ok (.int n), rest) := by
  have hvalue := Numeral.wholeValue_toDigits false n
  rw [if_neg (Nat.not_lt.mpr hn)] at hvalue
  rw [number?]
  · simp only [wholePart_toDigits n hrest, fractionPart_ended hrest, powerPart_ended hrest,
      digitValues_toDigits, hvalue, Option.bind_eq_bind, Option.bind_some]
    rfl
  · intro t ht
    have hdash : '-' ∈ Nat.toDigits 10 n := by
      obtain ⟨c, ds, hds⟩ := List.exists_cons_of_ne_nil (Nat.toDigits_ne_nil (b := 10) (n := n))
      rw [hds] at ht ⊢
      exact (List.cons.inj ht).1 ▸ List.mem_cons_self
    exact absurd (isDigit_of_mem_toDigits hdash) (by decide)

lemma number_negative :
    number? ('-' :: (Nat.toDigits 10 n ++ rest)) = some (.ok (.int (-n)), rest) := by
  have hvalue := Numeral.wholeValue_toDigits true n
  rw [if_neg (Nat.not_lt.mpr hn)] at hvalue
  simp only [number?, wholePart_toDigits n hrest, fractionPart_ended hrest, powerPart_ended hrest,
    digitValues_toDigits, hvalue, Option.bind_eq_bind, Option.bind_some]
  rfl

end Numbers

end Digits

section Words

variable {c : Char} (rest : List Char)

lemma scalar_null : scalar ('n' :: 'u' :: 'l' :: 'l' :: rest) = .ok (.null, rest) := rfl

lemma scalar_true : scalar ('t' :: 'r' :: 'u' :: 'e' :: rest) = .ok (.bool true, rest) := rfl

lemma scalar_false :
    scalar ('f' :: 'a' :: 'l' :: 's' :: 'e' :: rest) = .ok (.bool false, rest) := rfl

lemma ne_of_isDigit {d : Char} (hc : isDigit c = true) (hd : isDigit d = false) : d ≠ c := by
  rintro rfl
  exact absurd hc (by simp [hd])

lemma word_of_digit (hc : isDigit c = true) : word? (c :: rest) = none := by
  have hne : ∀ d, isDigit d = false → d ≠ c := fun d hd => ne_of_isDigit hc hd
  simp [word?, words, after?, hne 'n' rfl, hne 't' rfl, hne 'f' rfl, hne 'N' rfl, hne 'I' rfl,
    hne '-' rfl]

lemma word_of_negative (hc : isDigit c = true) : word? ('-' :: c :: rest) = none := by
  have hne : 'I' ≠ c := ne_of_isDigit hc rfl
  simp [word?, words, after?, hne]

end Words

lemma scalar_int {n : Int} (hn : (Nat.toDigits 10 n.natAbs).length ≤ Numeral.maxDigits)
    {rest : List Char} (hrest : Ended rest) :
    scalar ((Text.decimalInt n).toList ++ rest) = .ok (.int n, rest) := by
  obtain ⟨c, ds, hds⟩ :=
    List.exists_cons_of_ne_nil (Nat.toDigits_ne_nil (b := 10) (n := n.natAbs))
  have hc : isDigit c = true := isDigit_of_mem_toDigits (n := n.natAbs) (hds ▸ List.mem_cons_self)
  rw [Numeral.decimalInt_toList]
  by_cases hneg : n < 0
  · have hword : word? ('-' :: (Nat.toDigits 10 n.natAbs ++ rest)) = none := by
      rw [hds]
      exact word_of_negative _ hc
    have hvalue : -(n.natAbs : Int) = n := by omega
    rw [if_pos hneg, List.singleton_append, List.cons_append, scalar, hword,
      number_negative hn hrest, hvalue]
  · have hword : word? (Nat.toDigits 10 n.natAbs ++ rest) = none := by
      rw [hds]
      exact word_of_digit _ hc
    have hvalue : (n.natAbs : Int) = n := by omega
    rw [if_neg hneg, List.nil_append, scalar, hword, number_toDigits hn hrest, hvalue]

end HttpTemplate.Json
