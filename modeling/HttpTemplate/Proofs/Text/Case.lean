import HttpTemplate.Text.Blank
import HttpTemplate.Text.Case
import Mathlib.Data.List.DropRight
import Mathlib.Tactic.Lemma

/-! Lower case and blanks. What has been put in lower case stays as it is there, and a text has
blanks at its ends before if and only if it has them after. -/

namespace HttpTemplate.Text

section Trim

variable {p : Char → Bool} {s : List Char}

def Trimmed (p : Char → Bool) (s : List Char) : Prop :=
  (∀ c ∈ s.head?, p c = false) ∧ ∀ c ∈ s.getLast?, p c = false

lemma trimmed_iff :
    Trimmed p s ↔ s.head?.map p ≠ some true ∧ s.getLast?.map p ≠ some true := by
  rw [Trimmed]
  cases s.head? <;> cases s.getLast? <;> simp

lemma trim_eq (p : Char → Bool) (s : List Char) : trim p s = (s.dropWhile p).rdropWhile p := rfl

lemma dropWhile_of_trimmed (h : Trimmed p s) : s.dropWhile p = s := by
  cases s with
  | nil => rfl
  | cons c s => rw [List.dropWhile_cons, if_neg (by simp [h.1 c rfl])]

lemma rdropWhile_of_trimmed (h : Trimmed p s) : s.rdropWhile p = s := by
  rw [List.rdropWhile_eq_self_iff]
  intro hne
  simp [h.2 _ (List.getLast?_eq_some_getLast hne)]

lemma trim_of_trimmed (h : Trimmed p s) : trim p s = s := by
  rw [trim_eq, dropWhile_of_trimmed h, rdropWhile_of_trimmed h]

lemma trim_append_append {before after : List Char} (hbefore : ∀ c ∈ before, p c = true)
    (h : Trimmed p s) (hne : s ≠ []) (hafter : ∀ c ∈ after, p c = true) :
    trim p (before ++ (s ++ after)) = s := by
  have hfront : (s ++ after).dropWhile p = s ++ after := by
    obtain ⟨c, t, rfl⟩ := List.exists_cons_of_ne_nil hne
    rw [List.cons_append, List.dropWhile_cons, if_neg (by simp [h.1 c rfl])]
  have hback : (s ++ after).rdropWhile p = s.rdropWhile p := by
    rw [List.rdropWhile, List.reverse_append, List.dropWhile_append_of_pos (by simpa using hafter),
      List.rdropWhile]
  rw [trim_eq, List.dropWhile_append_of_pos hbefore, hfront, hback, rdropWhile_of_trimmed h]

lemma trimmed_trim (p : Char → Bool) (s : List Char) : Trimmed p (trim p s) := by
  rw [trim_eq]
  constructor
  · intro c hc
    obtain ⟨t, ht⟩ := List.rdropWhile_prefix p (s.dropWhile p)
    have hhead := List.head?_dropWhile_not p s
    rw [← ht, List.head?_append, Option.mem_def.mp hc] at hhead
    exact hhead
  · intro c hc
    obtain ⟨hne, hlast⟩ := List.mem_getLast?_eq_getLast hc
    rw [hlast]
    simpa using List.rdropWhile_last_not p (s.dropWhile p) hne

lemma strip_eq_self_iff {s : String} : strip s = s ↔ Trimmed isBlank s.toList := by
  constructor
  · intro h
    have htrim := trimmed_trim isBlank s.toList
    have hs : trim isBlank s.toList = s.toList := by
      rw [← String.toList_ofList (l := trim isBlank s.toList)]
      exact congrArg String.toList h
    rwa [hs] at htrim
  · intro h
    rw [strip, trim_of_trimmed h, String.ofList_toList]

lemma strip_strip (s : String) : strip (strip s) = strip s := by
  rw [strip_eq_self_iff, strip, String.toList_ofList]
  exact trimmed_trim isBlank s.toList

end Trim

section Runs

def CaseRun.points (r : CaseRun) : List ℕ :=
  (List.range ((r.last - r.first) / r.stride + 1)).map (r.first + r.stride * ·)

def CaseRun.image (r : CaseRun) (n : ℕ) : ℕ := (n + r.shift).toNat

def CaseRun.apart (r q : CaseRun) : Bool :=
  (r.image r.last).blt q.first || q.last.blt (r.image r.first)

variable {r q : CaseRun} {n : ℕ}

lemma CaseRun.mem_points (h : r.covers n = true) : n ∈ r.points := by
  simp only [covers, Bool.and_eq_true, decide_eq_true_eq, beq_iff_eq] at h
  obtain ⟨⟨hfirst, hlast⟩, hstride⟩ := h
  refine List.mem_map.mpr ⟨(n - r.first) / r.stride, ?_, ?_⟩
  · rw [List.mem_range, Nat.lt_succ_iff]
    exact Nat.div_le_div_right (Nat.sub_le_sub_right hlast _)
  · rw [Nat.mul_div_cancel' (Nat.dvd_of_mod_eq_zero hstride)]
    omega

lemma CaseRun.not_covers_of_apart (hr : r.covers n = true) (h : r.apart q = true) :
    q.covers (r.image n) = false := by
  simp only [covers, Bool.and_eq_true, decide_eq_true_eq] at hr
  simp only [apart, Bool.or_eq_true, Nat.blt_eq] at h
  simp only [covers, Bool.and_eq_false_iff, decide_eq_false_iff_not]
  simp only [image] at h ⊢
  omega

lemma apart_lowerRuns : ∀ r ∈ lowerRuns, ∀ q ∈ lowerRuns,
    (r.apart q || r.points.all fun n => !q.covers (r.image n)) = true := by
  simp only [← List.all_eq_true]
  decide +kernel

def CaseRun.plain (r : CaseRun) (n : ℕ) : Bool :=
  (r.image n).isValidChar && r.image n != 0x130 && r.image n != 0x3a3 &&
    !isBlank (Char.ofNat n) && !isBlank (Char.ofNat (r.image n))

lemma plain_lowerRuns : ∀ r ∈ lowerRuns, ∀ n ∈ r.points, r.plain n = true := by
  simp only [← List.all_eq_true]
  decide +kernel

end Runs

section Characters

variable {c d : Char} {before after : List Char}

lemma toNat_ofNat {n : ℕ} (h : n.isValidChar) : (Char.ofNat n).toNat = n := by
  rw [Char.ofNat, dif_pos h]
  rfl

def Lowered (c : Char) : Prop := ∀ before after, lowerChar before c after = [c]

lemma lowered_of_shiftBy (h : shiftBy lowerRuns c = c) (hdotted : c.toNat ≠ 0x130)
    (hsigma : c.toNat ≠ 0x3a3) : Lowered c := by
  intro before after
  rw [lowerChar, if_neg hdotted, if_neg hsigma, h]

lemma shiftBy_of_not_covers (h : ∀ r ∈ lowerRuns, r.covers c.toNat = false) :
    shiftBy lowerRuns c = c := by
  rw [shiftBy, List.find?_eq_none.mpr fun r hr => by simp [h r hr]]

lemma shiftBy_spec (hdotted : c.toNat ≠ 0x130) (hsigma : c.toNat ≠ 0x3a3) :
    Lowered (shiftBy lowerRuns c) ∧ isBlank (shiftBy lowerRuns c) = isBlank c := by
  cases hfind : lowerRuns.find? (·.covers c.toNat) with
  | none =>
    have hshift : shiftBy lowerRuns c = c := by rw [shiftBy, hfind]
    rw [hshift]
    exact ⟨lowered_of_shiftBy hshift hdotted hsigma, rfl⟩
  | some r =>
    have hr := List.mem_of_find?_eq_some hfind
    have hcovers : r.covers c.toNat = true := by simpa using List.find?_some hfind
    have hplain := plain_lowerRuns r hr _ (CaseRun.mem_points hcovers)
    simp only [CaseRun.plain, Char.ofNat_toNat, Bool.and_eq_true, Bool.not_eq_true', bne_iff_ne,
      decide_eq_true_eq] at hplain
    obtain ⟨⟨⟨⟨hvalid, hdotted⟩, hsigma⟩, hsource⟩, htarget⟩ := hplain
    have hnat := toNat_ofNat hvalid
    have hshift : shiftBy lowerRuns c = Char.ofNat (r.image c.toNat) := by
      rw [shiftBy, hfind]
      rfl
    -- what a run maps to is covered by no other, and so it stays
    have hnone : ∀ q ∈ lowerRuns, q.covers (r.image c.toNat) = false := by
      intro q hq
      rcases Bool.or_eq_true_iff.mp (apart_lowerRuns r hr q hq) with h | h
      · exact CaseRun.not_covers_of_apart hcovers h
      · simpa using List.all_eq_true.mp h _ (CaseRun.mem_points hcovers)
    rw [hshift]
    refine ⟨lowered_of_shiftBy (shiftBy_of_not_covers ?_) ?_ ?_, ?_⟩
    · rwa [hnat]
    · rwa [hnat]
    · rwa [hnat]
    · rw [htarget, hsource]

lemma lowered_special : ∀ d ∈ ['i', '\u0307', 'ς', 'σ'], Lowered d ∧ isBlank d = false := by
  have hspecial : (['i', '\u0307', 'ς', 'σ'].all fun d =>
      shiftBy lowerRuns d == d && d.toNat != 0x130 && d.toNat != 0x3a3 && !isBlank d) = true := by
    decide +kernel
  intro d hd
  have hplain := List.all_eq_true.mp hspecial d hd
  simp only [Bool.and_eq_true, beq_iff_eq, bne_iff_ne, Bool.not_eq_true'] at hplain
  obtain ⟨⟨⟨hshift, hdotted⟩, hsigma⟩, hblank⟩ := hplain
  exact ⟨lowered_of_shiftBy hshift hdotted hsigma, hblank⟩

lemma isBlank_of_toNat {n : ℕ} (h : c.toNat = n) : isBlank c = isBlank (Char.ofNat n) := by
  rw [← h, Char.ofNat_toNat]

lemma lowerChar_spec (before : List Char) (c : Char) (after : List Char) :
    lowerChar before c after ≠ [] ∧
      ∀ d ∈ lowerChar before c after, Lowered d ∧ isBlank d = isBlank c := by
  rw [lowerChar]
  split
  · next hdotted =>
    have hblank : isBlank c = false := isBlank_of_toNat hdotted
    refine ⟨List.cons_ne_nil _ _, fun d hd => ?_⟩
    rw [hblank]
    exact lowered_special d (List.mem_append_left ['ς', 'σ'] hd)
  split
  · next hsigma =>
    have hblank : isBlank c = false := isBlank_of_toNat hsigma
    refine ⟨List.cons_ne_nil _ _, fun d hd => ?_⟩
    rw [hblank, List.mem_singleton.mp hd]
    apply lowered_special
    split <;> simp
  · next hdotted hsigma =>
    refine ⟨List.cons_ne_nil _ _, fun d hd => ?_⟩
    rw [List.mem_singleton.mp hd]
    exact shiftBy_spec hdotted hsigma

end Characters

section Texts

variable {s : List Char}

lemma lowered_of_mem_lowerFrom {d : Char} {before : List Char} (h : d ∈ lowerFrom before s) :
    Lowered d := by
  induction s generalizing before with
  | nil => cases h
  | cons c s ih =>
    rw [lowerFrom] at h
    rcases List.mem_append.mp h with h | h
    · exact ((lowerChar_spec before c s).2 d h).1
    · exact ih h

lemma lowerFrom_of_lowered (before : List Char) (h : ∀ c ∈ s, Lowered c) :
    lowerFrom before s = s := by
  induction s generalizing before with
  | nil => rfl
  | cons c s ih =>
    rw [List.forall_mem_cons] at h
    rw [lowerFrom, h.1, ih _ h.2, List.singleton_append]

theorem lower_lower (s : String) : lower (lower s) = lower s := by
  rw [lower, lower, String.toList_ofList]
  exact congrArg String.ofList (lowerFrom_of_lowered [] fun c hc => lowered_of_mem_lowerFrom hc)

lemma lowerFrom_ne_nil (before : List Char) (h : s ≠ []) : lowerFrom before s ≠ [] := by
  obtain ⟨c, s, rfl⟩ := List.exists_cons_of_ne_nil h
  rw [lowerFrom]
  exact List.append_ne_nil_of_left_ne_nil (lowerChar_spec before c s).1 _

lemma isBlank_head_lowerFrom (before s : List Char) :
    (lowerFrom before s).head?.map isBlank = s.head?.map isBlank := by
  cases s with
  | nil => rfl
  | cons c s =>
    obtain ⟨hne, hspec⟩ := lowerChar_spec before c s
    obtain ⟨d, t, hd⟩ := List.exists_cons_of_ne_nil hne
    rw [lowerFrom, hd]
    simp [(hspec d (hd ▸ List.mem_cons_self)).2]

lemma isBlank_getLast_lowerFrom (before s : List Char) :
    (lowerFrom before s).getLast?.map isBlank = s.getLast?.map isBlank := by
  induction s generalizing before with
  | nil => rfl
  | cons c s ih =>
    rw [lowerFrom]
    cases s with
    | nil =>
      obtain ⟨hne, hspec⟩ := lowerChar_spec before c []
      rw [lowerFrom, List.append_nil, List.getLast?_eq_some_getLast hne]
      exact congrArg some (hspec _ (List.getLast_mem hne)).2
    | cons d s =>
      have hne : lowerFrom (c :: before) (d :: s) ≠ [] :=
        lowerFrom_ne_nil _ (List.cons_ne_nil d s)
      rw [List.getLast?_append_of_ne_nil _ hne, ih, List.getLast?_cons_cons]

lemma trimmed_lowerFrom : Trimmed isBlank (lowerFrom [] s) ↔ Trimmed isBlank s := by
  rw [trimmed_iff, trimmed_iff, isBlank_head_lowerFrom, isBlank_getLast_lowerFrom]

theorem strip_lower_iff {s : String} : strip (lower s) = lower s ↔ strip s = s := by
  rw [strip_eq_self_iff, strip_eq_self_iff, lower, String.toList_ofList, trimmed_lowerFrom]

lemma lower_eq_empty_iff {s : String} : lower s = "" ↔ s = "" := by
  constructor
  · intro h
    by_contra hs
    have hlist : s.toList ≠ [] := by simpa using hs
    apply lowerFrom_ne_nil [] hlist
    simpa [lower] using h
  · rintro rfl
    rfl

end Texts

end HttpTemplate.Text
