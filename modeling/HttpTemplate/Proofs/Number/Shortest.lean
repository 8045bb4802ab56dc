import HttpTemplate.Number.Shortest
import HttpTemplate.Proofs.Number.Rounding
import Mathlib.Data.Nat.Cast.Order.Field

/-! The decimal that is found for a binary number rounds to it: a point of some grid of at most
seventeen digits lies in the interval of the number, and only such points are taken. -/

namespace HttpTemplate.RoundingInterval

open Binary64

variable {m : ℕ} {e place : ℤ} {k : ℕ}

section Grids

lemma grid_step_pos (i : RoundingInterval) (place : ℤ) : 0 < (i.grid place).step :=
  Nat.mul_pos (twoTo_pos _) (Nat.pow_pos (by decide))

lemma pow_toNat_split {b : ℕ} (hb : 0 < b) (e : ℤ) :
    ((b ^ e.toNat : ℕ) : ℚ) = (b : ℚ) ^ e * (b ^ (-e).toNat : ℕ) := by
  rcases le_total 0 e with h | h
  · rw [cast_pow_toNat b h, Int.toNat_of_nonpos (Int.neg_nonpos_of_nonneg h)]
    simp
  · rw [cast_pow_toNat b (e := -e) (by omega), ← zpow_add₀ (by positivity)]
    simp [Int.toNat_of_nonpos h]

lemma grid_unit (i : RoundingInterval) (place : ℤ) :
    ((i.grid place).unit : ℚ) * 10 ^ place = (i.grid place).step * 2 ^ i.exponent := by
  have htwo : (twoTo i.exponent.toNat : ℚ) = 2 ^ i.exponent * twoTo (-i.exponent).toNat :=
    pow_toNat_split two_pos _
  have hten : (tenTo place.toNat : ℚ) = 10 ^ place * tenTo (-place).toNat :=
    pow_toNat_split (by decide) _
  simp only [grid]
  push_cast
  rw [htwo, hten]
  ring

lemma cast_mul_unit (i : RoundingInterval) (place : ℤ) (a : ℕ) :
    ((a * (i.grid place).unit : ℕ) : ℚ) * 10 ^ place =
      a * 2 ^ i.exponent * (i.grid place).step := by
  push_cast
  rw [mul_assoc, grid_unit]
  ring

lemma cast_mul_step (i : RoundingInterval) (place : ℤ) (k : ℕ) :
    ((k * (i.grid place).step : ℕ) : ℚ) * 10 ^ place =
      k * 10 ^ place * (i.grid place).step := by
  push_cast
  ring

lemma mul_unit_le_iff (i : RoundingInterval) (place : ℤ) (k a : ℕ) :
    a * (i.grid place).unit ≤ k * (i.grid place).step ↔
      (a * 2 ^ i.exponent : ℚ) ≤ k * 10 ^ place := by
  have hstep : (0 : ℚ) < (i.grid place).step := by exact_mod_cast grid_step_pos i place
  rw [← Nat.cast_le (α := ℚ), ← mul_le_mul_iff_left₀ (ten_zpow_pos place), cast_mul_unit,
    cast_mul_step, mul_le_mul_iff_left₀ hstep]

lemma mul_step_le_iff (i : RoundingInterval) (place : ℤ) (k a : ℕ) :
    k * (i.grid place).step ≤ a * (i.grid place).unit ↔
      (k * 10 ^ place : ℚ) ≤ a * 2 ^ i.exponent := by
  have hstep : (0 : ℚ) < (i.grid place).step := by exact_mod_cast grid_step_pos i place
  rw [← Nat.cast_le (α := ℚ), ← mul_le_mul_iff_left₀ (ten_zpow_pos place), cast_mul_unit,
    cast_mul_step, mul_le_mul_iff_left₀ hstep]

end Grids

section Intervals

lemma quarter (e : ℤ) : (2 : ℚ) ^ (e - 2) = 2 ^ e / 4 := by
  rw [zpow_sub₀ (by norm_num)]
  norm_num

lemma cast_low (hpos : 0 < m) (e : ℤ) : ((of m e).low : ℚ) = 4 * (m - below m e) := by
  simp only [of, below, show twoTo 52 = 2 ^ 52 from rfl]
  split
  · rw [Nat.cast_sub (by omega)]
    push_cast
    ring
  · rw [Nat.cast_sub (by omega)]
    push_cast
    ring

lemma cast_high (m : ℕ) (e : ℤ) : ((of m e).high : ℚ) = 4 * (m + 1 / 2) := by
  simp only [of]
  push_cast
  ring

lemma holds_iff (hpos : 0 < m) :
    (of m e).holds ((of m e).grid place) k = true ↔ RoundsTo m e (k * 10 ^ place) := by
  have hlow := mul_unit_le_iff (of m e) place k (of m e).low
  have hlow' := mul_step_le_iff (of m e) place k (of m e).low
  have hhigh := mul_step_le_iff (of m e) place k (of m e).high
  have hhigh' := mul_unit_le_iff (of m e) place k (of m e).high
  have hunit : (of m e).exponent = e - 2 := rfl
  rw [cast_low hpos, hunit, quarter] at hlow hlow'
  rw [cast_high, hunit, quarter] at hhigh hhigh'
  have hclosed : (of m e).closed = decide (m % 2 = 0) := rfl
  rw [holds, hclosed, RoundsTo]
  by_cases hm : m % 2 = 0
  · simp only [hm, decide_true, if_true, Bool.and_eq_true, decide_eq_true_eq, hlow, hhigh]
    constructor <;> rintro ⟨h, h'⟩ <;> constructor <;> linarith
  · simp only [hm, decide_false, Bool.false_eq_true, if_false, Bool.and_eq_true,
      decide_eq_true_eq, ← not_le, hlow', hhigh']
    simp only [not_le]
    constructor <;> rintro ⟨h, h'⟩ <;> constructor <;> linarith

end Intervals

section Picking

lemma holds_of_pick {i : RoundingInterval} {g : Grid} (h : i.pick? g = some k) :
    i.holds g k = true := by
  rw [pick?] at h
  split at h
  · cases h
  · next hk _ =>
    cases h
    exact hk
  · next _ hk =>
    cases h
    exact hk
  · next hk hk' =>
    obtain rfl := Option.some.inj h
    rcases roundQuotient_cases (i.value * g.unit) g.step with heq | heq <;> rw [heq]
    · exact hk
    · exact hk'

lemma pick_eq_none {i : RoundingInterval} {g : Grid} (h : i.pick? g = none) :
    i.holds g (i.value * g.unit / g.step) = false ∧
      i.holds g (i.value * g.unit / g.step + 1) = false := by
  rw [pick?] at h
  split at h
  · next hk hk' => exact ⟨hk, hk'⟩
  all_goals cases h

lemma roundsTo_of_pickAt (hpos : 0 < m) {count : ℕ} {d : Decimal}
    (h : (of m e).pickAt count = some d) : RoundsTo m e (d.digits * 10 ^ d.exponent) := by
  obtain ⟨k, hk, rfl⟩ := Option.map_eq_some_iff.mp h
  exact (holds_iff hpos).mp (holds_of_pick hk)

end Picking

section Leading

lemma cast_value (i : RoundingInterval) :
    (i.value * 2 ^ i.exponent : ℚ) = (i.value * (i.grid 0).unit : ℕ) / ((i.grid 0).step : ℕ) := by
  have hstep : (0 : ℚ) < (i.grid 0).step := by exact_mod_cast grid_step_pos i 0
  have hunit := grid_unit i 0
  rw [zpow_zero, mul_one] at hunit
  rw [eq_div_iff hstep.ne']
  push_cast
  rw [hunit]
  ring

lemma leading_spec (i : RoundingInterval) (hvalue : 0 < i.value * (i.grid 0).unit) :
    (10 : ℚ) ^ i.leading ≤ i.value * 2 ^ i.exponent ∧
      (i.value * 2 ^ i.exponent : ℚ) < 10 ^ (i.leading + 1) := by
  have hpos := grid_step_pos i 0
  rw [cast_value, leading]
  set n := i.value * (i.grid 0).unit with hn
  set d := (i.grid 0).step with hd
  have hd' : (0 : ℚ) < (d : ℚ) := by exact_mod_cast hpos
  have hn' : (0 : ℚ) < (n : ℚ) := by exact_mod_cast hvalue
  split
  · next hle =>
    obtain ⟨hlow, hhigh⟩ := decimalLength_bounds (Nat.div_pos hle hpos)
    constructor
    · exact hlow.trans (by exact_mod_cast Nat.cast_div_le (α := ℚ))
    · have hquot : n / d < 10 ^ decimalLength (n / d) := by exact_mod_cast hhigh
      rw [sub_add_cancel, zpow_natCast, div_lt_iff₀ hd']
      exact_mod_cast (Nat.div_lt_iff_lt_mul hpos).mp hquot
  · next hlt =>
    have hge : n ≤ d - 1 := by omega
    obtain ⟨hlow, hhigh⟩ := decimalLength_bounds (Nat.div_pos hge hvalue)
    set l := decimalLength ((d - 1) / n) with hl
    constructor
    · have hquot : (d - 1) / n < 10 ^ l := by exact_mod_cast hhigh
      have hlt := (Nat.div_lt_iff_lt_mul hvalue).mp hquot
      have hle : d ≤ 10 ^ l * n := by omega
      rw [le_div_iff₀ hd', zpow_neg, zpow_natCast, inv_mul_le_iff₀ (by positivity)]
      exact_mod_cast hle
    · have hmul : (10 : ℚ) ^ ((l : ℤ) - 1) * n ≤ ((d - 1 : ℕ) : ℚ) := by
        refine (mul_le_mul_of_nonneg_right hlow hn'.le).trans ?_
        exact_mod_cast Nat.div_mul_le_self (d - 1) n
      have hcast : ((d - 1 : ℕ) : ℚ) < d := by
        exact_mod_cast Nat.sub_lt hpos one_pos
      rw [div_lt_iff₀ hd', show (-(l : ℤ) + 1) = -((l : ℤ) - 1) by ring, zpow_neg,
        lt_inv_mul_iff₀ (ten_zpow_pos _)]
      exact hmul.trans_lt hcast

end Leading

section Existence

lemma cast_value_of (m : ℕ) (e : ℤ) :
    ((of m e).value * 2 ^ (of m e).exponent : ℚ) = m * 2 ^ e := by
  have hexp : (of m e).exponent = e - 2 := rfl
  have hvalue : (of m e).value = 4 * m := rfl
  rw [hexp, hvalue, quarter]
  push_cast
  ring

lemma le_of_not_roundsTo {x : ℚ} (h : ¬ RoundsTo m e x) :
    x ≤ (m - below m e) * 2 ^ e ∨ (m + 1 / 2) * 2 ^ e ≤ x := by
  by_contra hne
  obtain ⟨hlow, hhigh⟩ := not_or.mp hne
  rw [not_le] at hlow hhigh
  apply h
  rw [RoundsTo]
  split
  · exact ⟨hlow.le, hhigh.le⟩
  · exact ⟨hlow, hhigh⟩

lemma width_le_of_pick_eq_none (hpos : 0 < m) (h : (of m e).pick? ((of m e).grid place) = none) :
    (1 / 2 + below m e) * 2 ^ e ≤ 10 ^ place := by
  obtain ⟨hk, hk'⟩ := pick_eq_none h
  set k := (of m e).value * ((of m e).grid place).unit / ((of m e).grid place).step with hkdef
  have hstep := grid_step_pos (of m e) place
  have htwo := two_zpow_pos e
  have hbelow : 0 < below m e := by
    rw [below]
    split <;> norm_num
  have hle : (k * 10 ^ place : ℚ) ≤ m * 2 ^ e := by
    rw [← cast_value_of m e]
    exact (mul_step_le_iff _ _ _ _).mp (Nat.div_mul_le_self _ _)
  have hlt : (m * 2 ^ e : ℚ) < (k + 1 : ℕ) * 10 ^ place := by
    rw [← cast_value_of m e, ← not_le]
    refine mt (mul_step_le_iff _ _ _ _).mpr (not_le.mpr ?_)
    exact (Nat.div_lt_iff_lt_mul hstep).mp (Nat.lt_succ_self _)
  have hlow := (le_of_not_roundsTo (mt (holds_iff hpos).mpr (Bool.eq_false_iff.mp hk))).resolve_right
    (by linarith)
  have hhigh := (le_of_not_roundsTo (mt (holds_iff hpos).mpr (Bool.eq_false_iff.mp hk'))).resolve_left
    (by
      have : (m - below m e) * 2 ^ e < m * 2 ^ e := mul_lt_mul_of_pos_right (by linarith) htwo
      linarith)
  push_cast at hhigh
  linarith

lemma exists_pickAt (hm : Normal m e) (hpos : 0 < m) : ∃ d, (of m e).pickAt 16 = some d := by
  by_contra hnone
  have hpick : (of m e).pick? ((of m e).grid ((of m e).leading - 16)) = none := by
    refine Option.eq_none_iff_forall_ne_some.mpr fun k hk => hnone ?_
    exact ⟨⟨k, (of m e).leading - 16⟩, Option.map_eq_some_iff.mpr ⟨k, hk, rfl⟩⟩
  have hvalue : 0 < (of m e).value * ((of m e).grid 0).unit := by
    refine Nat.mul_pos (Nat.mul_pos (by decide) hpos) (Nat.mul_pos (twoTo_pos _) ?_)
    exact Nat.pow_pos (by decide)
  -- the interval would be no wider than the number over 10 ^ 16, and the mantissa is below 2 ^ 53
  have hwidth := width_le_of_pick_eq_none hpos hpick
  have hleading := (leading_spec (of m e) hvalue).1
  have hten : (10 : ℚ) ^ ((of m e).leading - 16) = 10 ^ (of m e).leading / 10 ^ 16 := by
    rw [zpow_sub₀ (by norm_num)]
    norm_num
  rw [cast_value_of] at hleading
  rw [hten, le_div_iff₀ (by norm_num)] at hwidth
  have hle := hwidth.trans hleading
  rw [mul_right_comm, mul_le_mul_iff_left₀ (two_zpow_pos e)] at hle
  rw [below] at hle
  split at hle
  · next hmin =>
    rw [hmin.1] at hle
    norm_num at hle
  · have hlt : (m : ℚ) < 2 ^ 53 := by exact_mod_cast hm.lt
    norm_num at hle hlt
    linarith

theorem shortest_roundsTo (hm : Normal m e) (hpos : 0 < m) :
    0 < (of m e).shortest.digits ∧
      RoundsTo m e ((of m e).shortest.digits * 10 ^ (of m e).shortest.exponent) := by
  have hround :
      RoundsTo m e ((of m e).shortest.digits * 10 ^ (of m e).shortest.exponent) := by
    rw [shortest]
    cases hfound : (List.range 17).findSome? (of m e).pickAt with
    | none =>
      obtain ⟨d, hd⟩ := exists_pickAt hm hpos
      rw [List.findSome?_eq_none_iff.mp hfound 16 (by decide)] at hd
      cases hd
    | some d =>
      obtain ⟨count, -, hd⟩ := List.exists_of_findSome?_eq_some hfound
      exact roundsTo_of_pickAt hpos hd
  refine ⟨Nat.pos_of_ne_zero fun hzero => ?_, hround⟩
  have hone : (1 : ℚ) ≤ m := by exact_mod_cast hpos
  have hle := hround.bounds.1
  rw [hzero, Nat.cast_zero, zero_mul] at hle
  have hlow := mul_pos (a := (m - below m e : ℚ)) (by linarith [below_le m e]) (two_zpow_pos e)
  linarith

end Existence

end HttpTemplate.RoundingInterval
