import HttpTemplate.Proofs.Text.Split
import HttpTemplate.Url.Reference
import Mathlib.Data.List.TakeWhile

/-! The text before the first question mark decides scheme, authority and path on its own. A text
made of a scheme, an authority and a path is cut into them again, unless it leaves out a part that
the path then passes for. -/

namespace HttpTemplate.Url

open Text

section Cuts

lemma cutScheme_append (s t : List Char) :
    cutScheme (s ++ '?' :: t) = ((cutScheme s).1, (cutScheme s).2 ++ '?' :: t) := by
  have hstop : isSchemeChar '?' = false := by decide
  simp only [cutScheme, takeWhile_append_cons hstop, dropWhile_append_cons hstop]
  cases hrest : s.dropWhile isSchemeChar with
  | nil => rfl
  | cons c rest =>
    by_cases hc : c = ':'
    · subst hc
      simp only [List.cons_append]
      split <;> rfl
    · simp only [List.cons_append]
      split
      · next h => exact absurd (List.cons.inj h).1 hc
      · split
        · next h => exact absurd (List.cons.inj h).1 hc
        · rfl

lemma cutAuthority_of_not_slashes {s : List Char} (h : ¬ ['/', '/'] <+: s) :
    cutAuthority s = ([], s) := by
  rw [cutAuthority.eq_def]
  split
  · next t => exact absurd ⟨t, rfl⟩ h
  · rfl

lemma not_slashes_append {s : List Char} (h : ¬ ['/', '/'] <+: s) (t : List Char) :
    ¬ ['/', '/'] <+: s ++ '?' :: t := by
  match s with
  | [] => simp
  | [c] => simp
  | c :: d :: s => simpa using h

lemma cutAuthority_append (s t : List Char) :
    cutAuthority (s ++ '?' :: t) = ((cutAuthority s).1, (cutAuthority s).2 ++ '?' :: t) := by
  by_cases h : ['/', '/'] <+: s
  · obtain ⟨s, rfl⟩ := h
    have hstop : (!endsAuthority '?') = false := by decide
    simp only [List.cons_append, List.nil_append, cutAuthority,
      takeWhile_append_cons (p := (!endsAuthority ·)) hstop,
      dropWhile_append_cons (p := (!endsAuthority ·)) hstop]
  · rw [cutAuthority_of_not_slashes h, cutAuthority_of_not_slashes (not_slashes_append h t)]

lemma mem_cutScheme {s : List Char} {c : Char} (h : c ∈ (cutScheme s).2) : c ∈ s := by
  simp only [cutScheme] at h
  split at h
  · next rest hrest =>
    split at h
    · have hmem : c ∈ s.dropWhile isSchemeChar := hrest ▸ List.mem_cons_of_mem _ h
      exact (List.dropWhile_sublist _).subset hmem
    · exact h
  · exact h

lemma mem_cutAuthority {s : List Char} {c : Char} (h : c ∈ (cutAuthority s).2) : c ∈ s := by
  rw [cutAuthority.eq_def] at h
  split at h
  · have hmem := (List.dropWhile_sublist _).subset h
    exact List.mem_cons_of_mem _ (List.mem_cons_of_mem _ hmem)
  · exact h

end Cuts

def Unmarked (s : List Char) : Prop := ∀ c ∈ s, endsPath c = false

lemma Unmarked.append {s t : List Char} (hs : Unmarked s) (ht : Unmarked t) :
    Unmarked (s ++ t) := by
  intro c hc
  rcases List.mem_append.mp hc with hc | hc
  · exact hs c hc
  · exact ht c hc

def fragmentText : Option (List Char) → List Char
  | some f => '#' :: f
  | none => []

section Marks

variable {s : List Char}

lemma takeWhile_unmarked (h : Unmarked s) : s.takeWhile (!endsPath ·) = s :=
  takeWhile_of_forall fun c hc => by simp [h c hc]

lemma dropWhile_unmarked (h : Unmarked s) : s.dropWhile (!endsPath ·) = [] :=
  dropWhile_of_forall fun c hc => by simp [h c hc]

lemma unmarked_afterAuthority (h : Unmarked s) : Unmarked (cutAuthority (cutScheme s).2).2 :=
  fun c hc => h c (mem_cutScheme (mem_cutAuthority hc))

lemma ofText_unmarked (h : Unmarked s) :
    Reference.ofText s =
      ⟨(cutScheme s).1, (cutAuthority (cutScheme s).2).1, (cutAuthority (cutScheme s).2).2,
        none, none⟩ := by
  have hpath := unmarked_afterAuthority h
  simp only [Reference.ofText, takeWhile_unmarked hpath, dropWhile_unmarked hpath]
  rfl

lemma ofText_append (h : Unmarked s) {q : List Char} (hq : '#' ∉ q) (f : Option (List Char)) :
    Reference.ofText (s ++ '?' :: (q ++ fragmentText f)) =
      { Reference.ofText s with query := some q, fragment := f } := by
  have hpath := unmarked_afterAuthority h
  have hstop : (!endsPath '?') = false := by decide
  have hquery : ∀ c ∈ q, (!endsQuery c) = true := by
    intro c hc
    have hne : c ≠ '#' := fun he => hq (he ▸ hc)
    simp [endsQuery, hne]
  have hfragment : cutQuery ('?' :: (q ++ fragmentText f)) = (some q, fragmentText f) := by
    rw [cutQuery]
    cases f with
    | none => simp [fragmentText, takeWhile_of_forall hquery, dropWhile_of_forall hquery]
    | some f =>
      have hend : (!endsQuery '#') = false := by decide
      rw [fragmentText, takeWhile_append_cons (p := (!endsQuery ·)) hend,
        dropWhile_append_cons (p := (!endsQuery ·)) hend, takeWhile_of_forall hquery,
        dropWhile_of_forall hquery]
      rfl
  have hlast : fragment? (fragmentText f) = f := by cases f <;> rfl
  rw [ofText_unmarked h]
  simp only [Reference.ofText, cutScheme_append, cutAuthority_append,
    takeWhile_append_cons (p := (!endsPath ·)) hstop,
    dropWhile_append_cons (p := (!endsPath ·)) hstop, takeWhile_unmarked hpath,
    dropWhile_unmarked hpath, List.nil_append, hfragment, hlast]

end Marks

structure WellCut (r : Reference) : Prop where
  scheme : ∀ c ∈ r.scheme, isSchemeChar c = true
  scheme_head : r.scheme.head?.all isAlpha = true
  authority : ∀ c ∈ r.authority, endsAuthority c = false

lemma cutScheme_scheme (s : List Char) :
    (∀ c ∈ (cutScheme s).1, isSchemeChar c = true) ∧ (cutScheme s).1.head?.all isAlpha = true := by
  simp only [cutScheme]
  split
  · split
    · next hhead => exact ⟨fun c hc => List.mem_takeWhile_imp hc, hhead⟩
    · exact ⟨by simp, rfl⟩
  · exact ⟨by simp, rfl⟩

lemma cutAuthority_authority {s : List Char} {c : Char} (h : c ∈ (cutAuthority s).1) :
    endsAuthority c = false := by
  rw [cutAuthority.eq_def] at h
  split at h
  · simpa using List.mem_takeWhile_imp h
  · cases h

lemma wellCut_ofText (s : List Char) : WellCut (Reference.ofText s) where
  scheme := (cutScheme_scheme s).1
  scheme_head := (cutScheme_scheme s).2
  authority _ hc := cutAuthority_authority hc

def front (scheme authority path : List Char) : List Char :=
  (if scheme.isEmpty then [] else scheme ++ [':']) ++
    ((if authority.isEmpty then [] else '/' :: '/' :: authority) ++ path)

/-- Without an authority the path does not begin like one, and without a scheme before it not like
one either. -/
structure Plain (scheme authority path : List Char) : Prop where
  not_slashes : authority = [] → ¬ ['/', '/'] <+: path
  not_scheme : scheme = [] → authority = [] → cutScheme path = ([], path)

section Front

variable {scheme authority path : List Char}

lemma cutScheme_scheme_append (hscheme : ∀ c ∈ scheme, isSchemeChar c = true)
    (hhead : scheme.head?.all isAlpha = true) (rest : List Char) :
    cutScheme (scheme ++ ':' :: rest) = (scheme, rest) := by
  have hstop : isSchemeChar ':' = false := by decide
  simp only [cutScheme, takeWhile_append_cons hstop, dropWhile_append_cons hstop,
    takeWhile_of_forall hscheme, dropWhile_of_forall hscheme, List.nil_append, hhead, if_true]

lemma cutAuthority_slashes (hauthority : ∀ c ∈ authority, endsAuthority c = false)
    (hpath : path = [] ∨ path.head? = some '/') :
    cutAuthority ('/' :: '/' :: (authority ++ path)) = (authority, path) := by
  have hall : ∀ c ∈ authority, (!endsAuthority c) = true := fun c hc => by
    simp [hauthority c hc]
  rw [cutAuthority]
  cases path with
  | nil => simp [takeWhile_of_forall hall, dropWhile_of_forall hall]
  | cons c path =>
    obtain rfl : c = '/' := by simpa using hpath
    have hstop : (!endsAuthority '/') = false := by decide
    rw [takeWhile_append_cons (p := (!endsAuthority ·)) hstop,
      dropWhile_append_cons (p := (!endsAuthority ·)) hstop, takeWhile_of_forall hall,
      dropWhile_of_forall hall, List.nil_append]

lemma unmarked_front (hscheme : ∀ c ∈ scheme, isSchemeChar c = true)
    (hauthority : ∀ c ∈ authority, endsAuthority c = false) (hpath : Unmarked path) :
    Unmarked (front scheme authority path) := by
  have hs : Unmarked scheme := by
    intro c hc
    have hchar := hscheme c hc
    rw [Bool.eq_false_iff]
    intro hend
    rcases Bool.or_eq_true_iff.mp hend with he | he <;>
    · obtain rfl := eq_of_beq he
      exact absurd hchar (by decide)
  have ha : Unmarked authority := by
    intro c hc
    have hchar := hauthority c hc
    simp only [endsAuthority, Bool.or_eq_false_iff] at hchar
    simp [endsPath, hchar]
  have hcolon : Unmarked [':'] := by simp [Unmarked, endsPath]
  have hslashes : Unmarked ['/', '/'] := by simp [Unmarked, endsPath]
  have hnil : Unmarked [] := by simp [Unmarked]
  rw [front]
  apply Unmarked.append
  · split
    · exact hnil
    · exact hs.append hcolon
  · apply Unmarked.append
    · split
      · exact hnil
      · exact hslashes.append ha
    · exact hpath

lemma ofText_front (hscheme : ∀ c ∈ scheme, isSchemeChar c = true)
    (hhead : scheme.head?.all isAlpha = true)
    (hauthority : ∀ c ∈ authority, endsAuthority c = false) (hpath : Unmarked path)
    (hroot : authority ≠ [] → path = [] ∨ path.head? = some '/')
    (hplain : Plain scheme authority path) :
    Reference.ofText (front scheme authority path) = ⟨scheme, authority, path, none, none⟩ := by
  have hauth : cutAuthority ((if authority.isEmpty then [] else '/' :: '/' :: authority) ++ path) =
      (authority, path) := by
    by_cases ha : authority = []
    · subst ha
      exact cutAuthority_of_not_slashes (hplain.not_slashes rfl)
    · simp only [List.isEmpty_iff, ha, if_false, List.cons_append]
      exact cutAuthority_slashes hauthority (hroot ha)
  have hcut : cutScheme (front scheme authority path) =
      (scheme, (if authority.isEmpty then [] else '/' :: '/' :: authority) ++ path) := by
    by_cases hs : scheme = []
    · subst hs
      by_cases ha : authority = []
      · subst ha
        exact hplain.not_scheme rfl rfl
      · simp [front, ha, cutScheme, isSchemeChar, isAlpha, isDigit]
    · simp only [front, List.isEmpty_iff, hs, if_false, List.append_assoc, List.singleton_append]
      exact cutScheme_scheme_append hscheme hhead _
  rw [ofText_unmarked (unmarked_front hscheme hauthority hpath), hcut, hauth]

end Front

end HttpTemplate.Url
