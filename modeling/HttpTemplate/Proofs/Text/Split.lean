import HttpTemplate.Text.Split
import Mathlib.Data.List.Basic

/-! Cutting at separators, in texts that are put together from pieces, and in texts whose characters
are each spelled out on their own. -/

namespace HttpTemplate.Text

variable {α : Type} [DecidableEq α] {sep : α}

lemma splitOn_eq (sep : α) (s : List α) : splitOn sep s = s.splitOn sep := by
  induction s with
  | nil => rfl
  | cons c s ih =>
    rw [splitOn, List.splitOn_cons_eq_if_modifyHead, ih]
    by_cases hc : c = sep
    · simp [hc]
    · simp only [hc, if_false, beq_iff_eq]
      split
      · next h => exact absurd h (List.splitOn_ne_nil _ _)
      · next piece pieces h => rw [h, List.modifyHead_cons]

lemma splitOn_intercalate {pieces : List (List α)} (h : ∀ p ∈ pieces, sep ∉ p) (hne : pieces ≠ []) :
    splitOn sep ([sep].intercalate pieces) = pieces := by
  rw [splitOn_eq, List.splitOn_intercalate sep h hne]

lemma notMem_of_mem_splitOn {s p : List α} (h : p ∈ splitOn sep s) : sep ∉ p := by
  induction s generalizing p with
  | nil =>
    obtain rfl := List.mem_singleton.mp h
    exact List.not_mem_nil
  | cons c s ih =>
    rw [splitOn] at h
    split at h
    · rcases List.mem_cons.mp h with rfl | h
      · exact List.not_mem_nil
      · exact ih h
    · next hc =>
      split at h
      · next hs => exact absurd hs (splitOn_ne_nil sep s)
      · next piece pieces hs =>
        rw [hs] at ih
        rcases List.mem_cons.mp h with rfl | h
        · exact List.not_mem_cons_of_ne_of_not_mem (Ne.symm hc) (ih List.mem_cons_self)
        · exact ih (List.mem_cons_of_mem _ h)

lemma mem_splitOn_of_mem {s : List α} {c : α} (h : c ∈ s) :
    c = sep ∨ ∃ p ∈ splitOn sep s, c ∈ p := by
  induction s with
  | nil => cases h
  | cons b s ih =>
    by_cases hc : c = sep
    · exact .inl hc
    · right
      by_cases hb : b = sep
      · have hs : c ∈ s := (List.mem_cons.mp h).resolve_left fun he => hc (he.trans hb)
        obtain ⟨p, hp, hcp⟩ := (ih hs).resolve_left hc
        exact ⟨p, by simp [splitOn, hb, hp], hcp⟩
      · rw [splitOn, if_neg hb]
        split
        · next hs => exact absurd hs (splitOn_ne_nil sep s)
        · next piece pieces hs =>
          rcases List.mem_cons.mp h with rfl | h
          · exact ⟨c :: piece, List.mem_cons_self, List.mem_cons_self⟩
          · obtain ⟨p, hp, hcp⟩ := (ih h).resolve_left hc
            rw [hs] at hp
            rcases List.mem_cons.mp hp with rfl | hp
            · exact ⟨b :: p, List.mem_cons_self, List.mem_cons_of_mem _ hcp⟩
            · exact ⟨p, List.mem_cons_of_mem _ hp, hcp⟩

lemma splitOn_of_notMem {s : List α} (h : sep ∉ s) : splitOn sep s = [s] := by
  rw [splitOn_eq, List.splitOn_eq_singleton h]

lemma splitOn_append {p : List α} (h : sep ∉ p) (s : List α) :
    splitOn sep (p ++ s) = (splitOn sep s).modifyHead (p ++ ·) := by
  induction p with
  | nil => cases hs : splitOn sep s <;> simp [hs]
  | cons c p ih =>
    obtain ⟨hc, hp⟩ := not_or.mp (mt List.mem_cons.mpr h)
    rw [List.cons_append, splitOn, if_neg (Ne.symm hc), ih hp]
    cases hs : splitOn sep s with
    | nil => exact absurd hs (splitOn_ne_nil sep s)
    | cons piece pieces => simp

section Runs

variable {β : Type} {p : β → Bool} {c : β}

lemma takeWhile_append_cons (h : p c = false) (s t : List β) :
    (s ++ c :: t).takeWhile p = s.takeWhile p := by
  induction s with
  | nil => simp [h]
  | cons b s ih => cases hb : p b <;> simp [hb, ih]

lemma dropWhile_append_cons (h : p c = false) (s t : List β) :
    (s ++ c :: t).dropWhile p = s.dropWhile p ++ c :: t := by
  induction s with
  | nil => simp [h]
  | cons b s ih => cases hb : p b <;> simp [hb, ih]

lemma takeWhile_of_forall {s : List β} (h : ∀ b ∈ s, p b = true) : s.takeWhile p = s := by
  rw [← List.append_nil s, List.takeWhile_append_of_pos h, List.takeWhile_nil, List.append_nil]

lemma dropWhile_of_forall {s : List β} (h : ∀ b ∈ s, p b = true) : s.dropWhile p = [] := by
  rw [← List.append_nil s, List.dropWhile_append_of_pos h, List.dropWhile_nil]

end Runs

section First

lemma splitFirst_append {p : List α} (h : sep ∉ p) (s : List α) :
    splitFirst sep (p ++ sep :: s) = (p, some s) := by
  induction p with
  | nil => simp [splitFirst]
  | cons c p ih =>
    obtain ⟨hc, hp⟩ := not_or.mp (mt List.mem_cons.mpr h)
    simp [splitFirst, Ne.symm hc, ih hp]

lemma splitFirst_of_notMem {s : List α} (h : sep ∉ s) : splitFirst sep s = (s, none) := by
  induction s with
  | nil => rfl
  | cons c s ih =>
    obtain ⟨hc, hs⟩ := not_or.mp (mt List.mem_cons.mpr h)
    simp [splitFirst, Ne.symm hc, ih hs]

lemma splitFirst_cases (sep : α) (s : List α) :
    (sep ∉ s ∧ splitFirst sep s = (s, none)) ∨
      ∃ p t, s = p ++ sep :: t ∧ sep ∉ p ∧ splitFirst sep s = (p, some t) := by
  by_cases h : sep ∈ s
  · obtain ⟨p, t, rfl, hp⟩ := List.eq_append_cons_of_mem h
    exact .inr ⟨p, t, rfl, hp, splitFirst_append hp t⟩
  · exact .inl ⟨h, splitFirst_of_notMem h⟩

end First

section Last

lemma splitLast_append {p : List α} (h : sep ∉ p) (s : List α) :
    splitLast sep (s ++ sep :: p) = (some s, p) := by
  have hrev : (s ++ sep :: p).reverse = p.reverse ++ sep :: s.reverse := by simp
  have hp : sep ∉ p.reverse := by simpa using h
  simp [splitLast, hrev, splitFirst_append hp]

lemma splitLast_of_notMem {s : List α} (h : sep ∉ s) : splitLast sep s = (none, s) := by
  have hs : sep ∉ s.reverse := by simpa using h
  simp [splitLast, splitFirst_of_notMem hs]

lemma splitLast_cases (sep : α) (s : List α) :
    (sep ∉ s ∧ splitLast sep s = (none, s)) ∨
      ∃ t p, s = t ++ sep :: p ∧ sep ∉ p ∧ splitLast sep s = (some t, p) := by
  by_cases h : sep ∈ s
  · obtain ⟨p, t, hs, hp⟩ := List.eq_append_cons_of_mem (List.mem_reverse.mpr h)
    obtain rfl : s = t.reverse ++ sep :: p.reverse := by
      rw [← List.reverse_reverse s, hs]
      simp
    have hp : sep ∉ p.reverse := by simpa using hp
    exact .inr ⟨_, _, rfl, hp, splitLast_append hp _⟩
  · exact .inl ⟨h, splitLast_of_notMem h⟩

end Last

section Spelled

variable {f : α → List α} (hsep : f sep = [sep]) (hf : ∀ c, c ≠ sep → sep ∉ f c)

include hsep hf

lemma splitOn_flatMap (s : List α) :
    splitOn sep (s.flatMap f) = (splitOn sep s).map (·.flatMap f) := by
  induction s with
  | nil => rfl
  | cons c s ih =>
    rw [List.flatMap_cons]
    by_cases hc : c = sep
    · subst hc
      simp [hsep, splitOn, ih]
    · rw [splitOn_append (hf c hc), ih, splitOn, if_neg hc]
      cases hs : splitOn sep s with
      | nil => exact absurd hs (splitOn_ne_nil sep s)
      | cons piece pieces => simp

lemma splitFirst_flatMap (s : List α) :
    splitFirst sep (s.flatMap f) =
      ((splitFirst sep s).1.flatMap f, (splitFirst sep s).2.map (·.flatMap f)) := by
  rcases splitFirst_cases sep s with ⟨hs, hcut⟩ | ⟨p, t, rfl, hp, hcut⟩
  · have hnot : sep ∉ s.flatMap f := by
      intro hmem
      obtain ⟨c, hc, hmem⟩ := List.mem_flatMap.mp hmem
      exact hf c (fun he => hs (he ▸ hc)) hmem
    rw [hcut, splitFirst_of_notMem hnot]
    rfl
  · have hnot : sep ∉ p.flatMap f := by
      intro hmem
      obtain ⟨c, hc, hmem⟩ := List.mem_flatMap.mp hmem
      exact hf c (fun he => hp (he ▸ hc)) hmem
    have hjoin : (p ++ sep :: t).flatMap f = p.flatMap f ++ sep :: t.flatMap f := by
      rw [List.flatMap_append, List.flatMap_cons, hsep, List.singleton_append]
    rw [hcut, hjoin, splitFirst_append hnot]
    rfl

end Spelled

end HttpTemplate.Text
