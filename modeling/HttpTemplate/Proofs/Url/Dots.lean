import HttpTemplate.Proofs.Text.Split
import HttpTemplate.Proofs.Url.Percent
import HttpTemplate.Url

/-! A path whose dot segments are resolved has none left, also when it is quoted. -/

namespace HttpTemplate.Url

open Text

def DotFree (path : List Char) : Prop :=
  dot ∉ splitOn '/' path ∧ dotDot ∉ splitOn '/' path

section Resolving

variable {kept segments : List (List Char)} {s : List Char}

lemma mem_resolveDots (h : s ∈ resolveDots kept segments) :
    s ∈ kept ∨ s ∈ segments ∧ s ≠ dot ∧ s ≠ dotDot := by
  induction segments generalizing kept with
  | nil => exact .inl (List.mem_reverse.mp h)
  | cons t rest ih =>
    rw [resolveDots] at h
    split at h
    · exact (ih h).imp_right fun hs => ⟨List.mem_cons_of_mem _ hs.1, hs.2⟩
    · next hdot =>
      split at h
      · rcases ih h with hkept | hs
        · left
          split at hkept
          · exact hkept
          · exact List.mem_of_mem_drop hkept
        · exact .inr ⟨List.mem_cons_of_mem _ hs.1, hs.2⟩
      · next hdots =>
        rcases ih h with hkept | hs
        · rcases List.mem_cons.mp hkept with rfl | hkept
          · exact .inr ⟨List.mem_cons_self, hdot, hdots⟩
          · exact .inl hkept
        · exact .inr ⟨List.mem_cons_of_mem _ hs.1, hs.2⟩

end Resolving

section Paths

variable {path : List Char}

lemma withoutDots_of_dotFree (h : DotFree path) : withoutDots path = path := by
  obtain ⟨hdot, hdots⟩ := h
  simp [withoutDots, hdot, hdots]

lemma dotFree_withoutDots (path : List Char) : DotFree (withoutDots path) := by
  rw [withoutDots]
  split
  · have hmem : ∀ s ∈ resolveDots [] (splitOn '/' path),
        s ∈ splitOn '/' path ∧ s ≠ dot ∧ s ≠ dotDot := fun s hs =>
      (mem_resolveDots hs).resolve_left List.not_mem_nil
    by_cases hnil : resolveDots [] (splitOn '/' path) = []
    · rw [hnil]
      constructor <;> decide
    · have hslash : ∀ s ∈ resolveDots [] (splitOn '/' path), '/' ∉ s := fun s hs =>
        notMem_of_mem_splitOn (hmem s hs).1
      rw [DotFree, splitOn_intercalate hslash hnil]
      exact ⟨fun h => (hmem _ h).2.1 rfl, fun h => (hmem _ h).2.2 rfl⟩
  · next h =>
    simpa [DotFree] using h

lemma DotFree.quote (h : DotFree path) : DotFree (quote safeInPath path) := by
  have hsegments : splitOn '/' (Url.quote safeInPath path) =
      (splitOn '/' path).map (Url.quote safeInPath) :=
    splitOn_quote (by decide) (by decide) (by decide) (by decide) path
  -- A segment that is quoted to dots was not coded.
  have hself : ∀ s t : List Char, '%' ∉ t → Url.quote safeInPath s = t → s = t := by
    intro s t ht he
    rw [← he, quote_eq_self_of_notMem (by decide) (he ▸ ht)]
  rw [DotFree, hsegments]
  constructor
  · intro hmem
    obtain ⟨s, hs, he⟩ := List.mem_map.mp hmem
    exact h.1 (hself s dot (by decide) he ▸ hs)
  · intro hmem
    obtain ⟨s, hs, he⟩ := List.mem_map.mp hmem
    exact h.2 (hself s dotDot (by decide) he ▸ hs)

end Paths

end HttpTemplate.Url
