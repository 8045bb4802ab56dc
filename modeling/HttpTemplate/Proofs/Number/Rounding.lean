import HttpTemplate.Number.Binary64
import Mathlib.Algebra.Order.Field.Power
import Mathlib.Data.Rat.Cast.Order
import Mathlib.Tactic.FieldSimp
import Mathlib.Tactic.Linarith
import Mathlib.Tactic.NormNum
import Mathlib.Tactic.Ring

/-! Which quotients and decimals round to a given binary number: those that are nearer to it than to
any other, and those half way to a neighbour when the mantissa is even. -/

namespace HttpTemplate.Binary64

/-- The mantissa and exponent of a finite number, which has no others. -/
structure Normal (m : ℕ) (e : ℤ) : Prop where
  lt : m < 2 ^ 53
  least : minExponent ≤ e
  greatest : e ≤ maxExponent
  leading : 2 ^ 52 ≤ m ∨ e = minExponent

def Proper : Binary64 → Prop
  | finite _ m e => Normal m e
  | _ => True

structure IsExponent (x : ℚ) (e : ℤ) : Prop where
  least : minExponent ≤ e
  lt : x < 2 ^ (e + 53)
  leading : 2 ^ (e + 52) ≤ x ∨ e = minExponent

/-- Half the way to the next lower number, in units of the last place. -/
def below (m : ℕ) (e : ℤ) : ℚ := if m = 2 ^ 52 ∧ minExponent < e then 1 / 4 else 1 / 2

def RoundsTo (m : ℕ) (e : ℤ) (x : ℚ) : Prop :=
  if m % 2 = 0 then (m - below m e) * 2 ^ e ≤ x ∧ x ≤ (m + 1 / 2) * 2 ^ e
  else (m - below m e) * 2 ^ e < x ∧ x < (m + 1 / 2) * 2 ^ e

section Powers

lemma cast_pow_toNat (b : ℕ) {e : ℤ} (h : 0 ≤ e) : ((b ^ e.toNat : ℕ) : ℚ) = (b : ℚ) ^ e := by
  lift e to ℕ using h
  exact_mod_cast Nat.cast_pow b e

lemma cast_twoTo {e : ℤ} (h : 0 ≤ e) : ((twoTo e.toNat : ℕ) : ℚ) = 2 ^ e := cast_pow_toNat 2 h

lemma cast_tenTo {e : ℤ} (h : 0 ≤ e) : ((tenTo e.toNat : ℕ) : ℚ) = 10 ^ e := cast_pow_toNat 10 h

lemma twoTo_pos (n : ℕ) : 0 < twoTo n := Nat.pow_pos (by decide)

lemma two_zpow_pos (e : ℤ) : (0 : ℚ) < 2 ^ e := zpow_pos (by norm_num) e

lemma two_zpow_add (e : ℤ) (n : ℕ) : (2 : ℚ) ^ (e + n) = 2 ^ n * 2 ^ e := by
  rw [zpow_add₀ (by norm_num), zpow_natCast, mul_comm]

lemma two_zpow_le {d e : ℤ} (h : d ≤ e) : (2 : ℚ) ^ d ≤ 2 ^ e :=
  zpow_le_zpow_right₀ (by norm_num) h

end Powers

section Exponents

variable {x : ℚ} {d e : ℤ} {num den : ℕ}

lemma IsExponent.le (hd : IsExponent x d) (he : IsExponent x e) : d ≤ e := by
  by_contra hlt
  have hleast := he.least
  have hx : (2 : ℚ) ^ (d + 52) ≤ x := hd.leading.resolve_right (by omega)
  have hpow : (2 : ℚ) ^ (e + 53) ≤ 2 ^ (d + 52) := two_zpow_le (by omega)
  exact absurd (hpow.trans hx) (not_le.mpr he.lt)

lemma IsExponent.unique (hd : IsExponent x d) (he : IsExponent x e) : d = e :=
  le_antisymm (hd.le he) (he.le hd)

lemma scale_den_pos (hden : 0 < den) (e : ℤ) : 0 < (scale num den e).2 := by
  rw [scale]
  split
  · exact hden
  · exact Nat.mul_pos hden (twoTo_pos _)

lemma ratio_eq (num den : ℕ) (e : ℤ) :
    (num / den : ℚ) = (scale num den e).1 / (scale num den e).2 * 2 ^ e := by
  rw [scale]
  split
  · next h =>
    push_cast [cast_twoTo (e := -e) (by omega)]
    rw [mul_div_right_comm, mul_assoc, ← zpow_add₀ (by norm_num), neg_add_cancel, zpow_zero, mul_one]
  · next h =>
    push_cast [cast_twoTo (e := e) (by omega)]
    rw [div_mul_eq_div_div, div_mul_cancel₀ _ (two_zpow_pos e).ne']

lemma scale_div_lt_iff (hden : 0 < den) (e : ℤ) (k : ℕ) :
    (scale num den e).1 / (scale num den e).2 < twoTo k ↔ (num / den : ℚ) < 2 ^ (e + k) := by
  have hpos : 0 < (scale num den e).2 := scale_den_pos hden e
  have hpos' : (0 : ℚ) < ((scale num den e).2 : ℕ) := by exact_mod_cast hpos
  rw [ratio_eq num den e, two_zpow_add e k, mul_lt_mul_iff_left₀ (two_zpow_pos e),
    div_lt_iff₀ hpos', Nat.div_lt_iff_lt_mul hpos]
  exact_mod_cast Iff.rfl

lemma log_bounds {n : ℕ} (hn : 0 < n) : (2 : ℚ) ^ (n.log2 : ℤ) ≤ n ∧ (n : ℚ) < 2 ^ (n.log2 + 1 : ℤ) := by
  have hlow := Nat.log2_self_le hn.ne'
  have hhigh := Nat.lt_log2_self (n := n)
  constructor
  · rw [zpow_natCast]
    exact_mod_cast hlow
  · have hcast : ((n.log2 : ℤ) + 1) = ((n.log2 + 1 : ℕ) : ℤ) := by push_cast; ring
    rw [hcast, zpow_natCast]
    exact_mod_cast hhigh

lemma ratio_bounds (hnum : 0 < num) (hden : 0 < den) :
    (2 : ℚ) ^ ((num.log2 : ℤ) - den.log2 - 1) ≤ num / den ∧
      (num / den : ℚ) < 2 ^ ((num.log2 : ℤ) - den.log2 + 1) := by
  obtain ⟨hn, hn'⟩ := log_bounds hnum
  obtain ⟨hd, hd'⟩ := log_bounds hden
  have hpos : (0 : ℚ) < den := by exact_mod_cast hden
  constructor
  · rw [le_div_iff₀ hpos]
    calc (2 : ℚ) ^ ((num.log2 : ℤ) - den.log2 - 1) * den
        ≤ 2 ^ ((num.log2 : ℤ) - den.log2 - 1) * 2 ^ (den.log2 + 1 : ℤ) :=
          mul_le_mul_of_nonneg_left hd'.le (two_zpow_pos _).le
      _ = 2 ^ (num.log2 : ℤ) := by
          rw [← zpow_add₀ (by norm_num)]
          congr 1
          ring
      _ ≤ num := hn
  · rw [div_lt_iff₀ hpos]
    calc (num : ℚ) < 2 ^ (num.log2 + 1 : ℤ) := hn'
      _ = 2 ^ ((num.log2 : ℤ) - den.log2 + 1) * 2 ^ (den.log2 : ℤ) := by
          rw [← zpow_add₀ (by norm_num)]
          congr 1
          ring
      _ ≤ 2 ^ ((num.log2 : ℤ) - den.log2 + 1) * den :=
          mul_le_mul_of_nonneg_left hd (two_zpow_pos _).le

lemma isExponent_exponentOf (hnum : 0 < num) (hden : 0 < den) :
    IsExponent (num / den) (exponentOf num den) := by
  obtain ⟨hlow, hhigh⟩ := ratio_bounds hnum hden
  rw [exponentOf]
  set a : ℤ := (num.log2 : ℤ) - den.log2 with ha
  set e := max (a - 53) minExponent with he
  have hle : minExponent ≤ e := le_max_right _ _
  have hge : a - 53 ≤ e := le_max_left _ _
  have hcases : e = a - 53 ∨ e = minExponent := max_choice _ _
  dsimp only
  split
  · next hlt =>
    refine ⟨hle, (scale_div_lt_iff hden e 53).mp hlt, hcases.imp_left fun hea => ?_⟩
    refine le_trans (two_zpow_le ?_) hlow
    omega
  · next hlt =>
    have hx : (2 : ℚ) ^ (e + 53) ≤ num / den := not_lt.mp (mt (scale_div_lt_iff hden e 53).mpr hlt)
    refine ⟨by omega, hhigh.trans_le (two_zpow_le (by omega)), .inl ?_⟩
    refine le_trans (two_zpow_le ?_) hx
    omega

end Exponents

section Rounding

variable {m : ℕ} {e : ℤ} {x : ℚ} {num den : ℕ}

lemma below_le (m : ℕ) (e : ℤ) : below m e ≤ 1 / 2 := by
  rw [below]
  split <;> norm_num

lemma RoundsTo.bounds (h : RoundsTo m e x) :
    (m - below m e) * 2 ^ e ≤ x ∧ x ≤ (m + 1 / 2) * 2 ^ e := by
  rw [RoundsTo] at h
  split at h
  · exact h
  · exact ⟨h.1.le, h.2.le⟩

lemma RoundsTo.strict (h : RoundsTo m e x) (hm : m % 2 ≠ 0) :
    (m - below m e) * 2 ^ e < x ∧ x < (m + 1 / 2) * 2 ^ e := by
  rwa [RoundsTo, if_neg hm] at h

lemma roundQuotient_eq {n d : ℕ} (hd : 0 < d) (hlow : 2 * (m * d) ≤ 2 * n + d)
    (hhigh : 2 * n ≤ 2 * (m * d) + d)
    (hodd : m % 2 ≠ 0 → 2 * (m * d) < 2 * n + d ∧ 2 * n < 2 * (m * d) + d) :
    roundQuotient n d = m := by
  have hn := Nat.div_add_mod n d
  have hr := Nat.mod_lt n hd
  rw [mul_comm] at hn
  -- the quotient is the mantissa or the number before it
  have hquot : n / d = m ∨ n / d + 1 = m := by
    rcases lt_trichotomy (n / d) m with h | h | h
    · right
      by_contra hne
      have hmul := Nat.mul_le_mul_right d (show n / d + 2 ≤ m by omega)
      rw [add_mul] at hmul
      omega
    · exact .inl h
    · have hmul := Nat.mul_le_mul_right d (show m + 1 ≤ n / d by omega)
      rw [add_mul] at hmul
      omega
  rw [roundQuotient]
  rcases hquot with rfl | rfl
  · split
    · rfl
    · split
      · next hhalf =>
        have : n / d % 2 = 0 := by
          by_contra hne
          have := (hodd hne).2
          omega
        omega
      · omega
  · rw [add_mul, one_mul] at hlow hhigh hodd
    split
    · omega
    · split
      · next hhalf =>
        have : (n / d + 1) % 2 = 0 := by
          by_contra hne
          have := (hodd hne).1
          omega
        omega
      · rfl

lemma roundQuotient_of_bounds {n d : ℕ} (hd : 0 < d) (hlow : (m - 1 / 2 : ℚ) ≤ n / d)
    (hhigh : (n / d : ℚ) ≤ m + 1 / 2)
    (hodd : m % 2 ≠ 0 → (m - 1 / 2 : ℚ) < n / d ∧ (n / d : ℚ) < m + 1 / 2) :
    roundQuotient n d = m := by
  have hpos : (0 : ℚ) < d := by exact_mod_cast hd
  rw [le_div_iff₀ hpos] at hlow
  rw [div_le_iff₀ hpos] at hhigh
  apply roundQuotient_eq hd
  · have : (2 * (m * d) : ℚ) ≤ 2 * n + d := by linarith
    exact_mod_cast this
  · have : (2 * n : ℚ) ≤ 2 * (m * d) + d := by linarith
    exact_mod_cast this
  · intro hm
    obtain ⟨hl, hh⟩ := hodd hm
    rw [lt_div_iff₀ hpos] at hl
    rw [div_lt_iff₀ hpos] at hh
    constructor
    · have : (2 * (m * d) : ℚ) < 2 * n + d := by linarith
      exact_mod_cast this
    · have : (2 * n : ℚ) < 2 * (m * d) + d := by linarith
      exact_mod_cast this

lemma roundQuotient_cases (n d : ℕ) : roundQuotient n d = n / d ∨ roundQuotient n d = n / d + 1 := by
  rw [roundQuotient]
  split
  · exact .inl rfl
  · split
    · rcases Nat.mod_two_eq_zero_or_one (n / d) with h | h
      · exact .inl (by rw [h, add_zero])
      · exact .inr (by rw [h])
    · exact .inr rfl

lemma assemble_normal (hm : Normal m e) (negative : Bool) :
    assemble negative m e = finite negative m e := by
  have hne : m ≠ twoTo 53 := hm.lt.ne
  simp [assemble, hne, not_lt.mpr hm.greatest]

lemma RoundsTo.lt (h : RoundsTo m e x) (hm : Normal m e) : x < 2 ^ (e + 53) := by
  have hlt := hm.lt
  have hpow : (2 : ℚ) ^ (e + 53) = 2 ^ 53 * 2 ^ e := two_zpow_add e 53
  have hpos := two_zpow_pos e
  rw [hpow]
  by_cases hodd : m % 2 = 0
  · have hm' : (m : ℚ) ≤ 2 ^ 53 - 2 := by
      have : m + 2 ≤ 2 ^ 53 := by omega
      have : (m : ℚ) + 2 ≤ 2 ^ 53 := by exact_mod_cast this
      linarith
    exact h.bounds.2.trans_lt (mul_lt_mul_of_pos_right (by linarith) hpos)
  · have hm' : (m : ℚ) ≤ 2 ^ 53 - 1 := by
      have : (m : ℚ) + 1 ≤ 2 ^ 53 := by exact_mod_cast hlt
      linarith
    exact (h.strict hodd).2.trans_le (mul_le_mul_of_nonneg_right (by linarith) hpos.le)

lemma RoundsTo.eq_power (h : RoundsTo m e x) (hm : Normal m e) (hx : x < 2 ^ (e + 52))
    (he : e ≠ minExponent) : m = 2 ^ 52 := by
  have hpow : (2 : ℚ) ^ (e + 52) = 2 ^ 52 * 2 ^ e := two_zpow_add e 52
  have hlow := h.bounds.1.trans_lt hx
  rw [hpow, mul_lt_mul_iff_left₀ (two_zpow_pos e)] at hlow
  have hbelow := below_le m e
  have hlt : (m : ℚ) < 2 ^ 52 + 1 := by linarith
  have hlt' : m < 2 ^ 52 + 1 := by exact_mod_cast hlt
  exact le_antisymm (by omega) (hm.leading.resolve_right he)

lemma roundQuotient_scale (hden : 0 < den) (h : RoundsTo m e (num / den)) :
    roundQuotient (scale num den e).1 (scale num den e).2 = m := by
  have hbelow := below_le m e
  have hbounds := h.bounds
  have hstrict := h.strict
  rw [ratio_eq num den e] at hbounds hstrict
  simp only [mul_le_mul_iff_left₀ (two_zpow_pos e), mul_lt_mul_iff_left₀ (two_zpow_pos e)]
    at hbounds hstrict
  apply roundQuotient_of_bounds (scale_den_pos hden e)
  · linarith [hbounds.1]
  · exact hbounds.2
  · exact fun hodd => ⟨by linarith [(hstrict hodd).1], (hstrict hodd).2⟩

lemma two_zpow_pred (e : ℤ) : (2 : ℚ) ^ e = 2 * 2 ^ (e - 1) := by
  have h := two_zpow_add (e - 1) 1
  rwa [Nat.cast_one, sub_add_cancel, pow_one] at h

lemma RoundsTo.bounds_carry (h : RoundsTo (2 ^ 52) e x) (he : minExponent < e)
    (hx : x < 2 ^ (e + 52)) :
    (2 ^ 53 - 1 / 2) * 2 ^ (e - 1) ≤ x ∧ x < 2 ^ 53 * 2 ^ (e - 1) := by
  have hbelow : below (2 ^ 52) e = 1 / 4 := if_pos ⟨rfl, he⟩
  have hpow : (2 : ℚ) ^ (e + 52) = 2 ^ 52 * 2 ^ e := two_zpow_add e 52
  have hlow := h.bounds.1
  rw [hbelow, two_zpow_pred e] at hlow
  rw [hpow, two_zpow_pred e] at hx
  push_cast at hlow
  constructor <;> linarith

lemma roundQuotient_scale_carry (hden : 0 < den) (h : RoundsTo (2 ^ 52) e (num / den))
    (he : minExponent < e) (hx : (num / den : ℚ) < 2 ^ (e + 52)) :
    roundQuotient (scale num den (e - 1)).1 (scale num den (e - 1)).2 = 2 ^ 53 := by
  obtain ⟨hlow, hhigh⟩ := h.bounds_carry he hx
  rw [ratio_eq num den (e - 1)] at hlow hhigh
  rw [mul_le_mul_iff_left₀ (two_zpow_pos _)] at hlow
  rw [mul_lt_mul_iff_left₀ (two_zpow_pos _)] at hhigh
  apply roundQuotient_of_bounds (scale_den_pos hden _)
  · push_cast
    exact hlow
  · push_cast
    linarith
  · exact fun hodd => absurd (by decide) hodd

lemma assemble_carry (negative : Bool) (e : ℤ) :
    assemble negative (2 ^ 53) (e - 1) = assemble negative (2 ^ 52) e := by
  simp [assemble, twoTo]

theorem ofRatio_of_roundsTo (hm : Normal m e) (hnum : 0 < num) (hden : 0 < den)
    (h : RoundsTo m e (num / den)) (negative : Bool) :
    ofRatio negative num den = finite negative m e := by
  have hexp := isExponent_exponentOf hnum hden
  rw [ofRatio, if_neg hnum.ne']
  by_cases hleading : (2 : ℚ) ^ (e + 52) ≤ num / den ∨ e = minExponent
  · have he : exponentOf num den = e := hexp.unique ⟨hm.least, h.lt hm, hleading⟩
    simp only [he, roundQuotient_scale hden h]
    exact assemble_normal hm negative
  · -- the quotient lies below a power of two to which it rounds up, at the exponent before
    obtain ⟨hx, hne⟩ := not_or.mp hleading
    have hx : (num / den : ℚ) < 2 ^ (e + 52) := not_le.mp hx
    have hlt : minExponent < e := lt_of_le_of_ne hm.least (Ne.symm hne)
    obtain rfl := h.eq_power hm hx hne
    have he : exponentOf num den = e - 1 := by
      refine hexp.unique ⟨by omega, ?_, .inl ?_⟩
      · have hsucc : e - 1 + 53 = e + 52 := by ring
        rwa [hsucc]
      · have hpow : (2 : ℚ) ^ (e - 1 + 52) = 2 ^ 52 * 2 ^ (e - 1) := two_zpow_add (e - 1) 52
        have hpos := two_zpow_pos (e - 1)
        have hlow := (h.bounds_carry hlt hx).1
        rw [hpow]
        linarith
    simp only [he, roundQuotient_scale_carry hden h hlt hx, assemble_carry]
    exact assemble_normal hm negative

lemma proper_assemble (negative : Bool) (hle : m ≤ 2 ^ 53) (hleast : minExponent ≤ e)
    (hleading : 2 ^ 52 ≤ m ∨ e = minExponent) : (assemble negative m e).Proper := by
  rw [assemble]
  by_cases hcarry : m = twoTo 53
  · rw [if_pos hcarry]
    dsimp only
    split
    · trivial
    · exact ⟨by decide, by omega, by omega, .inl le_rfl⟩
  · have hlt : m < 2 ^ 53 := lt_of_le_of_ne hle hcarry
    rw [if_neg hcarry]
    dsimp only
    split
    · trivial
    · exact ⟨hlt, hleast, by omega, hleading⟩

lemma normal_zero : Normal 0 minExponent := ⟨by decide, le_rfl, by decide, .inr rfl⟩

lemma proper_ofRatio (negative : Bool) (num : ℕ) (hden : 0 < den) :
    (ofRatio negative num den).Proper := by
  rw [ofRatio]
  split
  · exact normal_zero
  · next hnum =>
    have hexp := isExponent_exponentOf (Nat.pos_of_ne_zero hnum) hden
    have hbig : twoTo 53 = 2 ^ 53 := rfl
    have hsmall : twoTo 52 = 2 ^ 52 := rfl
    dsimp only
    generalize exponentOf num den = e at hexp ⊢
    have hlt := (scale_div_lt_iff hden e 53).mpr hexp.lt
    have hround := roundQuotient_cases (scale num den e).1 (scale num den e).2
    refine proper_assemble negative (by omega) hexp.least (hexp.leading.imp_left fun hlead => ?_)
    have hge := mt (scale_div_lt_iff hden e 52).mp (not_lt.mpr hlead)
    omega

end Rounding

section Decimals

variable {m : ℕ} {e exponent : ℤ} {digits : ℕ}

lemma ten_zpow_pos (e : ℤ) : (0 : ℚ) < 10 ^ e := zpow_pos (by norm_num) e

lemma largest_lt : (2 : ℚ) ^ (maxExponent + 53) < 10 ^ (310 : ℤ) := by
  have h : 2 ^ 1024 < 10 ^ 310 := by decide +kernel
  have hexp : maxExponent + 53 = ((1024 : ℕ) : ℤ) := rfl
  rw [hexp, zpow_natCast]
  exact_mod_cast h

lemma lt_smallest : (10 : ℚ) ^ (-331 : ℤ) < 2 ^ (minExponent - 1) := by
  have h : 2 ^ 1075 < 10 ^ 331 := by decide +kernel
  have hexp : minExponent - 1 = -((1075 : ℕ) : ℤ) := rfl
  have hexp' : (-331 : ℤ) = -((331 : ℕ) : ℤ) := rfl
  rw [hexp, hexp', zpow_neg, zpow_neg, zpow_natCast, zpow_natCast]
  apply inv_strictAnti₀ (by positivity)
  exact_mod_cast h

lemma decimalLength_bounds (hdigits : 0 < digits) :
    (10 : ℚ) ^ ((decimalLength digits : ℤ) - 1) ≤ digits ∧
      (digits : ℚ) < 10 ^ (decimalLength digits : ℤ) := by
  have hpos : 0 < decimalLength digits := Nat.length_toDigits_pos
  have hle := Nat.length_toDigits_le_iff (b := 10) (n := digits) (by decide) hpos
  constructor
  · rcases Nat.eq_or_lt_of_le (Nat.succ_le_of_lt hpos) with h | h
    · have hone : (1 : ℚ) ≤ digits := by exact_mod_cast hdigits
      simpa [← h] using hone
    · have hge := Nat.length_toDigits_le_iff (b := 10) (n := digits) (k := decimalLength digits - 1)
        (by decide) (by omega)
      have hnot : ¬ digits < 10 ^ (decimalLength digits - 1) := by
        rw [← hge]
        change ¬ decimalLength digits ≤ _
        omega
      have hcast : (decimalLength digits : ℤ) - 1 = ((decimalLength digits - 1 : ℕ) : ℤ) := by omega
      rw [hcast, zpow_natCast]
      exact_mod_cast not_lt.mp hnot
  · rw [zpow_natCast]
    exact_mod_cast hle.mp le_rfl

lemma RoundsTo.length_bounds (hm : Normal m e) (hpos : 0 < m) (hdigits : 0 < digits)
    (h : RoundsTo m e (digits * 10 ^ exponent)) :
    exponent + decimalLength digits ≤ 310 ∧ -330 ≤ exponent + decimalLength digits := by
  obtain ⟨hlow, hhigh⟩ := decimalLength_bounds hdigits
  have hten := ten_zpow_pos exponent
  constructor
  · by_contra hlt
    have hle : (10 : ℚ) ^ (310 : ℤ) ≤ digits * 10 ^ exponent := by
      calc (10 : ℚ) ^ (310 : ℤ) ≤ 10 ^ ((decimalLength digits : ℤ) - 1 + exponent) :=
            zpow_le_zpow_right₀ (by norm_num) (by omega)
        _ = 10 ^ ((decimalLength digits : ℤ) - 1) * 10 ^ exponent := zpow_add₀ (by norm_num) _ _
        _ ≤ digits * 10 ^ exponent := mul_le_mul_of_nonneg_right hlow hten.le
    have hlt := (hle.trans_lt (h.lt hm)).trans_le
      (two_zpow_le (e := maxExponent + 53) (by have := hm.greatest; omega))
    exact absurd hlt (not_lt.mpr largest_lt.le)
  · by_contra hlt
    have hle : digits * (10 : ℚ) ^ exponent ≤ 10 ^ (-331 : ℤ) := by
      calc digits * (10 : ℚ) ^ exponent ≤ 10 ^ (decimalLength digits : ℤ) * 10 ^ exponent :=
            mul_le_mul_of_nonneg_right hhigh.le hten.le
        _ = 10 ^ ((decimalLength digits : ℤ) + exponent) := (zpow_add₀ (by norm_num) _ _).symm
        _ ≤ 10 ^ (-331 : ℤ) := zpow_le_zpow_right₀ (by norm_num) (by omega)
    have hm' : (1 : ℚ) ≤ m := by exact_mod_cast hpos
    have hbelow := below_le m e
    have hge : (2 : ℚ) ^ (minExponent - 1) ≤ digits * 10 ^ exponent := by
      calc (2 : ℚ) ^ (minExponent - 1) ≤ 2 ^ (e - 1) := two_zpow_le (by have := hm.least; omega)
        _ = 1 / 2 * 2 ^ e := by rw [two_zpow_pred e]; ring
        _ ≤ (m - below m e) * 2 ^ e :=
            mul_le_mul_of_nonneg_right (by linarith) (two_zpow_pos e).le
        _ ≤ digits * 10 ^ exponent := h.bounds.1
    exact absurd (hge.trans hle) (not_le.mpr lt_smallest)

theorem ofDecimal_of_roundsTo (hm : Normal m e) (hpos : 0 < m) (hdigits : 0 < digits)
    (h : RoundsTo m e (digits * 10 ^ exponent)) (negative : Bool) :
    ofDecimal negative digits exponent = finite negative m e := by
  obtain ⟨hhigh, hlow⟩ := h.length_bounds hm hpos hdigits
  rw [ofDecimal]
  simp only [hdigits.ne', not_lt.mpr hhigh, not_lt.mpr hlow, if_false]
  split
  · next hneg =>
    have hden : 0 < tenTo (-exponent).toNat := Nat.pow_pos (by decide)
    apply ofRatio_of_roundsTo hm hdigits hden
    rwa [cast_tenTo (by omega), div_eq_mul_inv, zpow_neg, inv_inv]
  · next hneg =>
    have hnum : 0 < digits * tenTo exponent.toNat :=
      Nat.mul_pos hdigits (Nat.pow_pos (by decide))
    apply ofRatio_of_roundsTo hm hnum Nat.one_pos
    rwa [Nat.cast_one, div_one, Nat.cast_mul, cast_tenTo (by omega)]

lemma proper_ofDecimal (negative : Bool) (digits : ℕ) (exponent : ℤ) :
    (ofDecimal negative digits exponent).Proper := by
  rw [ofDecimal]
  split
  · exact normal_zero
  · split
    · trivial
    · split
      · exact normal_zero
      · split
        · exact proper_ofRatio _ _ (Nat.pow_pos (by decide))
        · exact proper_ofRatio _ _ Nat.one_pos

end Decimals

end HttpTemplate.Binary64
