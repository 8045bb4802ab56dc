import HttpTemplate.Proofs.Json.RoundTrip
import HttpTemplate.Proofs.Number.Shortest
import Mathlib.Data.List.TakeWhile

/-! Real numbers of JSON read back. In whatever style a decimal is laid out, its text is read as that
decimal, and the shortest decimal of a finite number rounds to the number. -/

namespace HttpTemplate.Json

open Binary64 Faults Nat

section Digits

variable {digits rest : List Char}

lemma ofDigits_digitValues (hdigits : ∀ c ∈ digits, isDigit c = true) :
    Text.ofDigits (digits.filterMap Text.digitValue?) = ofDigitChars 10 digits 0 := by
  rw [digitValues_of_digits hdigits, Text.ofDigits_map_toNat]

lemma fractionPart_of_digits (hne : digits ≠ []) (hdigits : ∀ d ∈ digits, isDigit d = true)
    (hrest : ∀ c ∈ rest.head?, isDigit c = false) :
    fractionPart ('.' :: (digits ++ rest)) = (some digits, rest) := by
  have hempty : digits.isEmpty = false := by simpa using hne
  simp [fractionPart, takeDigits_of_head hdigits hrest, hempty]

lemma powerPart_of_digits (negative : Bool) (hne : digits ≠ [])
    (hdigits : ∀ d ∈ digits, isDigit d = true) (hrest : Ended rest) :
    powerPart ('e' :: (if negative then '-' else '+') :: (digits ++ rest)) =
      (some (if negative then -(ofDigitChars 10 digits 0 : ℤ) else ofDigitChars 10 digits 0),
        rest) := by
  have hempty : digits.isEmpty = false := by simpa using hne
  have htake := takeDigits_of_head hdigits fun c hc => (hrest c hc).1
  cases negative <;>
    simp [powerPart, Numeral.signed, htake, hempty, ofDigits_digitValues hdigits]

end Digits

section Numbers

def signText (negative : Bool) : List Char := if negative then ['-'] else []

lemma number_of_parts (negative : Bool) {t s s' rest whole : List Char}
    {fraction : Option (List Char)} {power : Option ℤ} (hdash : ∀ u, t ≠ '-' :: u)
    (hwhole : wholePart? t = some (whole, s)) (hfraction : fractionPart s = (fraction, s'))
    (hpower : powerPart s' = (power, rest)) (hreal : fraction.isSome ∨ power.isSome)
    (hdigits : ∀ c ∈ whole ++ fraction.getD [], isDigit c = true) :
    number? (signText negative ++ t) =
      some (.ok (.float (.ofDecimal negative (ofDigitChars 10 (whole ++ fraction.getD []) 0)
        (power.getD 0 - (fraction.getD []).length))), rest) := by
  rw [← ofDigits_digitValues hdigits]
  cases negative with
  | true =>
    simp only [signText, if_true, List.singleton_append, number?, hwhole, hfraction, hpower,
      Option.bind_eq_bind, Option.bind_some]
    cases fraction <;> cases power <;> first | rfl | simp at hreal
  | false =>
    rw [signText, if_neg Bool.false_ne_true, List.nil_append, number?]
    · simp only [hwhole, hfraction, hpower, Option.bind_eq_bind, Option.bind_some]
      cases fraction <;> cases power <;> first | rfl | simp at hreal
    · exact fun u hu => hdash u hu

/-- Text that is read as a real number of that size, of either sign. -/
structure Denotes (t : List Char) (x : ℚ) : Prop where
  begins : ∃ c u, t = c :: u ∧ isDigit c = true
  read : ∃ (digits : ℕ) (exponent : ℤ), 0 < digits ∧ (digits * 10 ^ exponent : ℚ) = x ∧
    ∀ negative rest, Ended rest → number? (signText negative ++ (t ++ rest)) =
      some (.ok (.float (.ofDecimal negative digits exponent)), rest)

lemma ne_dash_of_digit {c : Char} (hc : isDigit c = true) (t u : List Char) : c :: t ≠ '-' :: u := by
  intro h
  obtain ⟨rfl, -⟩ := List.cons.inj h
  exact absurd hc (by decide)

lemma denotes_of_parts {t : List Char} (whole : List Char) (fraction : Option (List Char))
    (power : Option ℤ) (hbegins : ∃ c u, t = c :: u ∧ isDigit c = true)
    (hread : ∀ rest, Ended rest → ∃ s s', wholePart? (t ++ rest) = some (whole, s) ∧
      fractionPart s = (fraction, s') ∧ powerPart s' = (power, rest))
    (hreal : fraction.isSome ∨ power.isSome)
    (hdigits : ∀ c ∈ whole ++ fraction.getD [], isDigit c = true)
    (hpos : 0 < ofDigitChars 10 (whole ++ fraction.getD []) 0) :
    Denotes t (ofDigitChars 10 (whole ++ fraction.getD []) 0 *
      10 ^ (power.getD 0 - (fraction.getD []).length)) := by
  refine ⟨hbegins, _, _, hpos, rfl, fun negative rest hrest => ?_⟩
  obtain ⟨c, u, rfl, hc⟩ := hbegins
  obtain ⟨s, s', hwhole, hfraction, hpower⟩ := hread rest hrest
  exact number_of_parts negative (ne_dash_of_digit hc _) hwhole hfraction hpower hreal hdigits

end Numbers

section Layout

variable {c : Char} {s : List Char}

lemma significant_spec {d : Decimal} (hd : 0 < d.digits) :
    ∃ c s zeros, d.significant = c :: s ∧ c ≠ '0' ∧ (∀ x ∈ c :: s, isDigit x = true) ∧
      toDigits 10 d.digits = c :: s ++ List.replicate zeros '0' := by
  obtain ⟨c, ds, hds, hc⟩ := toDigits_of_pos hd
  have hzeros : ∃ zeros, ((toDigits 10 d.digits).reverse.takeWhile (· == '0')).reverse =
      List.replicate zeros '0' := by
    refine ⟨_, List.eq_replicate_iff.mpr ⟨rfl, fun x hx => ?_⟩⟩
    simpa using List.mem_takeWhile_imp (List.mem_reverse.mp hx)
  obtain ⟨zeros, hzeros⟩ := hzeros
  have hsplit : toDigits 10 d.digits = d.significant ++ List.replicate zeros '0' := by
    rw [← hzeros, Decimal.significant, ← List.reverse_append, List.takeWhile_append_dropWhile,
      List.reverse_reverse]
  cases hs : d.significant with
  | nil =>
    rw [hs, List.nil_append, hds] at hsplit
    have hmem : c ∈ List.replicate zeros '0' := hsplit ▸ List.mem_cons_self
    exact absurd (List.eq_of_mem_replicate hmem) hc
  | cons c' s =>
    rw [hs] at hsplit
    obtain ⟨rfl, -⟩ := List.cons.inj (hds.symm.trans hsplit)
    refine ⟨c, s, zeros, rfl, hc, fun x hx => ?_, hsplit⟩
    exact isDigit_of_mem_toDigits (n := d.digits) (hsplit ▸ List.mem_append_left _ hx)

lemma value_of_significant {d : Decimal} {zeros : ℕ}
    (h : toDigits 10 d.digits = c :: s ++ List.replicate zeros '0') :
    d.digits = 10 ^ zeros * ofDigitChars 10 (c :: s) 0 ∧
      d.leading = d.exponent + zeros + s.length := by
  constructor
  · rw [← ofDigitChars_replicate_zero, ← ofDigitChars_append, ← h, ofDigitChars_ten_toDigits]
  · simp only [Decimal.leading, h, List.length_append, List.length_cons, List.length_replicate]
    push_cast
    ring

lemma isDigit_of_mem_padded {width n : ℕ} {x : Char}
    (hx : x ∈ Decimal.padded width (toDigits 10 n)) : isDigit x = true := by
  rcases List.mem_append.mp hx with hx | hx
  · rw [List.eq_of_mem_replicate hx]
    decide
  · exact isDigit_of_mem_toDigits hx

lemma power_padded (width : ℕ) (lead : ℤ) {rest : List Char} (hrest : Ended rest) :
    powerPart ('e' :: (if lead < 0 then '-' else '+') ::
      (Decimal.padded width (toDigits 10 lead.natAbs) ++ rest)) = (some lead, rest) := by
  have hne : Decimal.padded width (toDigits 10 lead.natAbs) ≠ [] :=
    List.append_ne_nil_of_right_ne_nil _ toDigits_ne_nil
  have hvalue : ofDigitChars 10 (Decimal.padded width (toDigits 10 lead.natAbs)) 0 = lead.natAbs := by
    rw [Decimal.padded, ofDigitChars_append, ofDigitChars_replicate_zero, mul_zero,
      ofDigitChars_ten_toDigits]
  have hpower := powerPart_of_digits (decide (lead < 0)) hne (fun x hx => isDigit_of_mem_padded hx)
    hrest
  simp only [decide_eq_true_eq, hvalue] at hpower
  rw [hpower]
  congr 2
  split <;> omega

section Texts

variable (hc : c ≠ '0') (hdigits : ∀ x ∈ c :: s, isDigit x = true)
  (hpos : 0 < ofDigitChars 10 (c :: s) 0)

include hdigits hpos

lemma denotes_fraction {lead : ℤ} (hlead : lead < 0) :
    Denotes (Decimal.positional (c :: s) lead)
      (ofDigitChars 10 (c :: s) 0 * 10 ^ (lead - s.length)) := by
  rw [Decimal.positional, if_pos hlead]
  set fraction := List.replicate (-lead - 1).toNat '0' ++ c :: s with hfraction
  have hall : ∀ x ∈ fraction, isDigit x = true := by
    intro x hx
    rcases List.mem_append.mp hx with hx | hx
    · rw [List.eq_of_mem_replicate hx]
      decide
    · exact hdigits x hx
  have hvalue : ofDigitChars 10 (['0'] ++ fraction) 0 = ofDigitChars 10 (c :: s) 0 := by
    rw [hfraction, ofDigitChars_append, ofDigitChars_append, ofDigitChars_replicate_zero]
    rfl
  have hplace : (0 - fraction.length : ℤ) = lead - s.length := by
    simp only [hfraction, List.length_append, List.length_replicate, List.length_cons]
    omega
  rw [← hvalue, ← hplace]
  apply denotes_of_parts ['0'] (some fraction) none
  · exact ⟨'0', _, rfl, by decide⟩
  · intro rest hrest
    exact ⟨_, rest, rfl, fractionPart_of_digits (by simp [hfraction]) hall
      fun c hc => (hrest c hc).1, powerPart_ended hrest⟩
  · exact .inl rfl
  · intro x hx
    rcases List.mem_cons.mp hx with rfl | hx
    · decide
    · exact hall x hx
  · exact hvalue ▸ hpos

include hc

lemma denotes_point (whole : List Char) {fraction : List Char} (hjoin : whole ++ fraction = s)
    (hne : fraction ≠ []) :
    Denotes (c :: whole ++ '.' :: fraction)
      (ofDigitChars 10 (c :: s) 0 * 10 ^ (0 - fraction.length : ℤ)) := by
  subst hjoin
  have hwhole : ∀ x ∈ c :: whole, isDigit x = true := by
    intro x hx
    apply hdigits
    rw [← List.cons_append]
    exact List.mem_append_left _ hx
  have hfraction : ∀ x ∈ fraction, isDigit x = true := fun x hx =>
    hdigits x (List.mem_cons_of_mem _ (List.mem_append_right _ hx))
  apply denotes_of_parts (c :: whole) (some fraction) none
  · exact ⟨c, _, rfl, hwhole c List.mem_cons_self⟩
  · intro rest hrest
    refine ⟨'.' :: (fraction ++ rest), rest, ?_, ?_, powerPart_ended hrest⟩
    · rw [List.append_assoc, List.cons_append (a := '.')]
      exact wholePart_of_head hc hwhole (by simp [isDigit])
    · exact fractionPart_of_digits hne hfraction fun c hc => (hrest c hc).1
  · exact .inl rfl
  · exact hdigits
  · exact hpos

lemma denotes_filled (zeros : ℕ) :
    Denotes (c :: s ++ List.replicate zeros '0' ++ ['.', '0'])
      (ofDigitChars 10 (c :: s) 0 * 10 ^ (zeros : ℤ)) := by
  have hvalue : ofDigitChars 10 (c :: (s ++ List.replicate zeros '0' ++ ['0'])) 0 =
      10 ^ (zeros + 1) * ofDigitChars 10 (c :: s) 0 := by
    rw [List.append_assoc, ← List.replicate_succ', ← List.cons_append, ofDigitChars_append,
      ofDigitChars_replicate_zero]
  have hplace : (ofDigitChars 10 (c :: s) 0 * 10 ^ (zeros : ℤ) : ℚ) =
      ofDigitChars 10 (c :: (s ++ List.replicate zeros '0' ++ ['0'])) 0 *
        10 ^ (0 - ['0'].length : ℤ) := by
    have hexp : (zeros : ℤ) = ((zeros + 1 : ℕ) : ℤ) + (0 - ['0'].length) := by
      rw [List.length_singleton]
      omega
    rw [hvalue, hexp, zpow_add₀ (by norm_num), zpow_natCast]
    push_cast
    ring
  rw [hplace]
  apply denotes_point hc _ _ (s ++ List.replicate zeros '0') rfl (List.cons_ne_nil _ _)
  · intro x hx
    simp only [List.mem_cons, List.mem_append, List.mem_replicate, List.not_mem_nil,
      or_false] at hx
    rcases hx with rfl | (hx | ⟨-, rfl⟩) | rfl
    · exact hdigits _ List.mem_cons_self
    · exact hdigits x (List.mem_cons_of_mem _ hx)
    · decide
    · decide
  · rw [hvalue]
    positivity

lemma denotes_whole {lead : ℤ} (hlead : 0 ≤ lead) :
    Denotes (Decimal.positional (c :: s) lead)
      (ofDigitChars 10 (c :: s) 0 * 10 ^ (lead - s.length)) := by
  rw [Decimal.positional, if_neg (not_lt.mpr hlead)]
  dsimp only
  by_cases hlen : s.length ≤ lead.toNat
  · have hempty : (c :: s).drop (lead.toNat + 1) = [] :=
      List.drop_eq_nil_of_le (by simpa using hlen)
    have htake : (c :: s).take (lead.toNat + 1) = c :: s :=
      List.take_of_length_le (by simpa using hlen)
    have hplace : lead - s.length = ((lead.toNat + 1 - (c :: s).length : ℕ) : ℤ) := by
      rw [List.length_cons]
      omega
    rw [hempty, htake, hplace]
    exact denotes_filled hc hdigits hpos _
  · have hne : s.drop lead.toNat ≠ [] := by
      rw [Ne, List.drop_eq_nil_iff]
      exact hlen
    have hzeros : lead.toNat + 1 - (c :: s).length = 0 := by
      rw [List.length_cons]
      omega
    have hplace : (lead - s.length : ℤ) = 0 - ((s.drop lead.toNat).length : ℤ) := by
      rw [List.length_drop]
      omega
    have hfraction : (s.drop lead.toNat).isEmpty = false := by simpa using hlen
    rw [hzeros, List.replicate_zero, List.append_nil, List.take_succ_cons, List.drop_succ_cons,
      hfraction, hplace]
    exact denotes_point hc hdigits hpos _ (List.take_append_drop _ _) hne

lemma denotes_power (width : ℕ) (lead : ℤ) :
    Denotes (Decimal.withPower width (c :: s) lead)
      (ofDigitChars 10 (c :: s) 0 * 10 ^ (lead - s.length)) := by
  have hhead : isDigit c = true := hdigits c List.mem_cons_self
  have htail : ∀ x ∈ s, isDigit x = true := fun x hx => hdigits x (List.mem_cons_of_mem _ hx)
  have hone : ∀ x ∈ [c], isDigit x = true := by simpa using hhead
  have hmark : ∀ t : List Char, ∀ x ∈ ('e' :: t).head?, isDigit x = false := by simp [isDigit]
  rw [Decimal.withPower, List.take_succ_cons, List.take_zero, List.drop_succ_cons, List.drop_zero]
  cases s with
  | nil =>
    apply denotes_of_parts [c] none (some lead)
    · exact ⟨c, _, rfl, hhead⟩
    · exact fun rest hrest => ⟨_, _, wholePart_of_head hc hone (hmark _), rfl,
        power_padded width lead hrest⟩
    · exact .inr rfl
    · exact hone
    · exact hpos
  | cons d s =>
    apply denotes_of_parts [c] (some (d :: s)) (some lead)
    · exact ⟨c, _, rfl, hhead⟩
    · intro rest hrest
      set power := 'e' :: (if lead < 0 then '-' else '+') ::
        (Decimal.padded width (toDigits 10 lead.natAbs) ++ rest) with hpower
      refine ⟨'.' :: (d :: s ++ power), power, ?_,
        fractionPart_of_digits (List.cons_ne_nil _ _) htail (hmark _),
        power_padded width lead hrest⟩
      have hjoin : wholePart? ([c] ++ '.' :: (d :: s ++ power)) = some ([c], '.' :: (d :: s ++ power)) :=
        wholePart_of_head hc hone (by simp [isDigit])
      simpa [hpower] using hjoin
    · exact .inl rfl
    · exact hdigits
    · exact hpos

end Texts

theorem denotes_write (style : DecimalStyle) {d : Decimal} (hd : 0 < d.digits) :
    Denotes (d.write style) (d.digits * 10 ^ d.exponent) := by
  obtain ⟨c, s, zeros, hs, hc, hdigits, hjoin⟩ := significant_spec hd
  obtain ⟨hvalue, hlead⟩ := value_of_significant hjoin
  have hpos : 0 < ofDigitChars 10 (c :: s) 0 := by
    rw [hvalue] at hd
    exact Nat.pos_of_mul_pos_left hd
  have hsize : (d.digits * 10 ^ d.exponent : ℚ) =
      ofDigitChars 10 (c :: s) 0 * 10 ^ (d.leading - s.length) := by
    have hexp : d.leading - s.length = (zeros : ℤ) + d.exponent := by
      rw [hlead]
      ring
    rw [hvalue, hexp, zpow_add₀ (by norm_num), zpow_natCast]
    push_cast
    ring
  rw [hsize, Decimal.write, hs]
  split
  · rcases lt_or_ge d.leading 0 with hneg | hnonneg
    · exact denotes_fraction hdigits hpos hneg
    · exact denotes_whole hc hdigits hpos hnonneg
  · exact denotes_power hc hdigits hpos _ _

end Layout

section Texts

variable {m : ℕ} {e : ℤ} {rest : List Char}

lemma sign_toList (negative : Bool) (s : String) :
    (Binary64.sign negative s).toList = signText negative ++ s.toList := by
  cases negative <;> simp [Binary64.sign, signText]

lemma text_spec (hm : Normal m e) (negative : Bool) :
    ∃ t, (Binary64.finite negative m e).text.toList = signText negative ++ t ∧
      (∃ c u, t = c :: u ∧ isDigit c = true) ∧
      ∀ rest, Ended rest → number? (signText negative ++ (t ++ rest)) =
        some (.ok (.float (.finite negative m e)), rest) := by
  rcases Nat.eq_zero_or_pos m with rfl | hpos
  · obtain rfl := hm.leading.resolve_left (by decide)
    refine ⟨['0', '.', '0'], sign_toList negative _, ⟨'0', _, rfl, by decide⟩, fun rest hrest => ?_⟩
    have hdigits : ∀ d ∈ ['0'], isDigit d = true := List.forall_mem_singleton.mpr (by decide)
    have hfraction : fractionPart ('.' :: (['0'] ++ rest)) = (some ['0'], rest) :=
      fractionPart_of_digits (List.cons_ne_nil _ _) hdigits fun c hc => (hrest c hc).1
    have hwhole : wholePart? ('0' :: '.' :: (['0'] ++ rest)) = some (['0'], '.' :: (['0'] ++ rest)) :=
      rfl
    exact number_of_parts negative (ne_dash_of_digit (hdigits _ List.mem_cons_self) _) hwhole hfraction
      (powerPart_ended hrest) (.inl rfl) (List.forall_mem_append.mpr ⟨hdigits, hdigits⟩)
  · obtain ⟨hdigits, hround⟩ := RoundingInterval.shortest_roundsTo hm hpos
    obtain ⟨hbegins, digits, exponent, hdigits', hsize, hread⟩ :=
      denotes_write Binary64.style hdigits
    rw [← hsize] at hround
    refine ⟨_, ?_, hbegins, fun rest hrest => ?_⟩
    · rw [Binary64.text, if_neg hpos.ne', sign_toList, String.toList_ofList]
    · rw [hread negative rest hrest, ofDecimal_of_roundsTo hm hpos hdigits' hround]

lemma readsBack_finite {f : Format} (hm : Normal m e) (negative : Bool) :
    ReadsBack f (.float (.finite negative m e)) := by
  intro depth
  obtain ⟨t, htext, ⟨c, u, rfl, hc⟩, hnumber⟩ := text_spec hm negative
  refine ⟨_, rfl, ?_⟩
  have hscalar : ∀ rest, Ended rest → scalar (signText negative ++ (c :: u) ++ rest) =
      .ok (.float (.finite negative m e), rest) := by
    intro rest hrest
    have hword : word? (signText negative ++ (c :: u ++ rest)) = none := by
      cases negative with
      | true => exact word_of_negative _ hc
      | false => exact word_of_digit _ hc
    rw [List.append_assoc, scalar, hword, hnumber rest hrest]
  rw [htext]
  cases negative with
  | true =>
    exact readsAs_scalar (begins_number (.inl rfl) _) (by decide) (by decide) (by decide)
      fun hrest => hscalar _ hrest
  | false =>
    have hc' : c = '-' ∨ c.isDigit = true := .inr hc
    exact readsAs_scalar (begins_number hc' _) (ne_of_number hc' (by decide) rfl)
      (ne_of_number hc' (by decide) rfl) (ne_of_number hc' (by decide) rfl)
      fun hrest => hscalar _ hrest

end Texts

section Data

variable {f : Format} {v : Value}

inductive Datum : Value → Prop
  | null : Datum .null
  | bool (b : Bool) : Datum (.bool b)
  | int {n : ℤ} : (toDigits 10 n.natAbs).length ≤ Numeral.maxDigits → Datum (.int n)
  | float {x : Binary64} : x.Proper → Datum (.float x)
  | str (s : String) : Datum (.str s)
  | list {vs : List Value} : (∀ v ∈ vs, Datum v) → Datum (.list vs)
  | map {es : List (Value × Value)} :
      (∀ e ∈ es, ∃ name, e.1 = .str name) → (Entries.keys es).Nodup → (∀ e ∈ es, Datum e.2) →
      Datum (.map es)

inductive Unbounded : Value → Prop
  | float {x : Binary64} : x.isFinite = false → Unbounded (.float x)
  | item {vs : List Value} {v : Value} : v ∈ vs → Unbounded v → Unbounded (.list vs)
  | member {es : List (Value × Value)} {e : Value × Value} :
      e ∈ es → Unbounded e.2 → Unbounded (.map es)

lemma Datum.document (h : Datum v) : Document v := by
  induction h with
  | null => exact .null
  | bool b => exact .bool b
  | int => exact .int _
  | float => exact .float _
  | str s => exact .str s
  | list _ ih => exact .list ih
  | map hk _ _ ih => exact .map hk ih

lemma Datum.isWritable (h : Datum v) : v.isWritable = true := by
  induction h with
  | int hn => exact decide_eq_true hn
  | list _ ih => exact isWritable_list.mpr ih
  | map hk _ _ ih => exact (isWritable_map hk).mpr ih
  | _ => rfl

lemma readsBack_nan (hallowed : f.allowNotFinite = true) : ReadsBack f (.float .nan) := by
  intro depth
  have hwrite : writeAt f depth (.float .nan) = .ok "NaN" := by simp [writeAt, real, hallowed]
  exact ⟨_, hwrite, readsAs_scalar ⟨'N', _, rfl, by decide⟩ (by decide) (by decide) (by decide)
    fun _ => rfl⟩

lemma readsBack_infinite (hallowed : f.allowNotFinite = true) (negative : Bool) :
    ReadsBack f (.float (.infinite negative)) := by
  intro depth
  have hwrite : writeAt f depth (.float (.infinite negative)) =
      .ok (Binary64.sign negative "Infinity") := by
    simp [writeAt, real, hallowed]
  refine ⟨_, hwrite, ?_⟩
  cases negative with
  | false =>
    exact readsAs_scalar ⟨'I', _, rfl, by decide⟩ (by decide) (by decide) (by decide) fun _ => rfl
  | true =>
    exact readsAs_scalar ⟨'-', _, rfl, by decide⟩ (by decide) (by decide) (by decide) fun _ => rfl

lemma readsBack_datum (hf : Spaced f.spacing) (h : Datum v)
    (hallowed : Unbounded v → f.allowNotFinite = true) : ReadsBack f v := by
  induction h with
  | null => exact readsBack_null
  | bool b => exact readsBack_bool b
  | int hn => exact readsBack_int hn
  | @float x hx =>
    cases x with
    | finite negative m e => exact readsBack_finite hx negative
    | infinite negative => exact readsBack_infinite (hallowed (.float rfl)) negative
    | nan => exact readsBack_nan (hallowed (.float rfl))
  | str s => exact fun _ => ⟨string s, rfl, readsAs_string s⟩
  | list _ ih => exact readsBack_list hf fun v hv => ih v hv fun hu => hallowed (.item hv hu)
  | map hk hdistinct _ ih =>
    exact readsBack_map hf hk hdistinct fun e he => ih e he fun hu => hallowed (.member he hu)

lemma writeAt_unbounded (hf : f.allowNotFinite = false) (h : Unbounded v) (depth : ℕ)
    (text : String) : writeAt f depth v ≠ .ok text := by
  intro hwrite
  induction h generalizing depth text with
  | @float x hx =>
    cases x with
    | finite => cases hx
    | _ => simp [writeAt, real, hf] at hwrite
  | item hv _ ih =>
    rw [writeAt] at hwrite
    obtain ⟨texts, hwrite, -⟩ := bind_eq_ok.mp hwrite
    obtain ⟨text, htext⟩ := writeAll_ok hwrite _ hv
    exact ih _ _ htext
  | member he _ ih =>
    rw [writeAt] at hwrite
    obtain ⟨_, -, hwrite⟩ := bind_eq_ok.mp hwrite
    obtain ⟨texts, hwrite, -⟩ := bind_eq_ok.mp hwrite
    obtain ⟨text, htext⟩ := writeEntries_ok hwrite _ he
    exact ih _ _ htext

theorem write_unbounded (hf : f.allowNotFinite = false) (hv : Datum v) (h : Unbounded v) :
    write f v = .error .notFinite := by
  cases hwrite : write f v with
  | ok text => exact absurd hwrite (writeAt_unbounded hf h 0 text)
  | error fault =>
    rcases write_fault hv.document hwrite with ⟨rfl, -⟩ | ⟨-, hfalse⟩
    · rfl
    · exact absurd hv.isWritable (Bool.eq_false_iff.mp hfalse)

theorem read_write_datum (hf : Spaced f.spacing) (h : Datum v)
    (hallowed : Unbounded v → f.allowNotFinite = true) :
    ∃ text, write f v = .ok text ∧ read text = .ok v := by
  obtain ⟨text, hwrite, hread⟩ := readsBack_datum hf h hallowed 0
  exact ⟨text, hwrite, read_of_readsAs hread⟩

end Data

end HttpTemplate.Json
