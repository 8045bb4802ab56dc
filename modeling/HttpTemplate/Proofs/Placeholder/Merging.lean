import HttpTemplate.Placeholder.Scan
import Mathlib.Data.List.Chain
import Mathlib.Data.Sum.Basic

/-! Merged tokens: no literal is empty and no two literals are neighbours. A list of characters and
variables has exactly one merged list of tokens. -/

namespace HttpTemplate.Placeholder

abbrev Atom := Char ⊕ Variable

def tokenAtoms : Token → List Atom
  | .literal text => text.toList.map .inl
  | .placeholder v => [.inr v]

def atoms (ts : List Token) : List Atom := ts.flatMap tokenAtoms

def spanAtom : Span → Atom
  | .escaped c => .inl c
  | .placeholder v => .inr v
  | .plain c => .inl c

def Apart : Token → Token → Prop
  | .literal _, .literal _ => False
  | _, _ => True

structure Merged (ts : List Token) : Prop where
  nonempty : ∀ text, .literal text ∈ ts → text ≠ ""
  apart : ts.IsChain Apart

@[simp] lemma atoms_nil : atoms [] = [] := rfl

@[simp] lemma atoms_cons (t : Token) (ts : List Token) : atoms (t :: ts) = tokenAtoms t ++ atoms ts :=
  List.flatMap_cons

@[simp] lemma atoms_append (ts us : List Token) : atoms (ts ++ us) = atoms ts ++ atoms us :=
  List.flatMap_append

@[simp] lemma tokenAtoms_placeholder (v : Variable) : tokenAtoms (.placeholder v) = [.inr v] := rfl

lemma apart_placeholder (v : Variable) (t : Token) : Apart (.placeholder v) t := by
  cases t <;> trivial

lemma merged_nil : Merged [] := ⟨by simp, .nil⟩

lemma Merged.tail {t : Token} {ts : List Token} (h : Merged (t :: ts)) : Merged ts :=
  ⟨fun text ht => h.nonempty text (List.mem_cons_of_mem t ht), (List.isChain_cons.mp h.apart).2⟩

lemma merged_placeholder {ts : List Token} (v : Variable) (h : Merged ts) :
    Merged (.placeholder v :: ts) := by
  refine ⟨?_, List.isChain_cons.mpr ⟨fun t _ => apart_placeholder v t, h.apart⟩⟩
  rintro text (_ | ⟨_, ht⟩)
  exact h.nonempty text ht

lemma merged_literal_append (text : List Char) {ts : List Token} (h : Merged ts)
    (hts : ∀ t ∈ ts.head?, ∃ v, t = .placeholder v) :
    Merged (literal text ++ ts) := by
  rw [literal]
  split
  · exact h
  · next hne =>
    refine ⟨?_, List.isChain_cons.mpr ⟨?_, h.apart⟩⟩
    · rintro text (_ | ⟨_, ht⟩)
      · simpa using hne
      · exact h.nonempty text ht
    · intro t ht
      obtain ⟨v, rfl⟩ := hts t ht
      trivial

lemma atoms_literal (text : List Char) : atoms (literal text) = text.map .inl := by
  cases text <;> simp [literal, tokenAtoms]

lemma merged_mergeAfter (pending : List Char) (spans : List Span) :
    Merged (mergeAfter pending spans) := by
  induction spans generalizing pending with
  | nil => simpa [mergeAfter] using merged_literal_append pending.reverse merged_nil (by simp)
  | cons span spans ih =>
    cases span with
    | escaped c => exact ih (c :: pending)
    | placeholder v => exact merged_literal_append _ (merged_placeholder v (ih [])) (by simp)
    | plain c => exact ih (c :: pending)

lemma atoms_mergeAfter (pending : List Char) (spans : List Span) :
    atoms (mergeAfter pending spans) = pending.reverse.map .inl ++ spans.map spanAtom := by
  induction spans generalizing pending with
  | nil => simp [mergeAfter, atoms_literal]
  | cons span spans ih =>
    cases span with
    | escaped c => simp [mergeAfter, ih, spanAtom]
    | placeholder v => simp [mergeAfter, ih, spanAtom, atoms_literal]
    | plain c => simp [mergeAfter, ih, spanAtom]

lemma merged_tokens (text : List Char) : Merged (tokens text) := merged_mergeAfter [] (spans text)

lemma atoms_tokens (text : List Char) : atoms (tokens text) = (spans text).map spanAtom :=
  atoms_mergeAfter [] (spans text)

lemma tokenAtoms_ne_nil {ts : List Token} {t : Token} (h : Merged (t :: ts)) : tokenAtoms t ≠ [] := by
  cases t with
  | literal text => simpa [tokenAtoms] using h.nonempty text (by simp)
  | placeholder v => simp [tokenAtoms]

lemma atoms_after_literal {text : String} {ts : List Token} (h : Merged (.literal text :: ts)) :
    ∀ a ∈ (atoms ts).head?, a.isLeft = false := by
  cases ts with
  | nil => simp
  | cons t ts =>
    cases t with
    | literal text' => exact (List.isChain_cons_cons.mp h.apart).1.elim
    | placeholder v => simp

lemma append_inj_of_stop {α : Type} {p : α → Bool} {xs ys us vs : List α} (hx : ∀ a ∈ xs, p a = true)
    (hy : ∀ a ∈ ys, p a = true) (hu : ∀ a ∈ us.head?, p a = false)
    (hv : ∀ a ∈ vs.head?, p a = false) (h : xs ++ us = ys ++ vs) : xs = ys ∧ us = vs := by
  have hstop : ∀ ws : List α, (∀ a ∈ ws.head?, p a = false) → ws.takeWhile p = [] := by
    intro ws hw
    cases ws with
    | nil => rfl
    | cons a ws => simp [hw a rfl]
  have hxy := congrArg (List.takeWhile p) h
  rw [List.takeWhile_append_of_pos hx, List.takeWhile_append_of_pos hy, hstop us hu, hstop vs hv,
    List.append_nil, List.append_nil] at hxy
  exact ⟨hxy, List.append_cancel_left (hxy ▸ h)⟩

lemma literal_atoms_ne {text : String} {v : Variable} {ts : List Token} {as bs : List Atom}
    (h : Merged (.literal text :: ts)) : tokenAtoms (.literal text) ++ as ≠ .inr v :: bs := by
  cases hl : text.toList with
  | nil => exact absurd (String.toList_eq_nil_iff.mp hl) (h.nonempty text (by simp))
  | cons c cs => simp [tokenAtoms, hl]

lemma merged_unique {ts us : List Token} (ht : Merged ts) (hu : Merged us)
    (h : atoms ts = atoms us) : ts = us := by
  induction ts generalizing us with
  | nil =>
    cases us with
    | nil => rfl
    | cons u us => exact absurd h.symm (by simp [tokenAtoms_ne_nil hu])
  | cons t ts ih =>
    cases us with
    | nil => exact absurd h (by simp [tokenAtoms_ne_nil ht])
    | cons u us =>
      rw [atoms_cons, atoms_cons] at h
      cases t with
      | placeholder v =>
        cases u with
        | placeholder w =>
          obtain ⟨hv, h⟩ := List.cons.inj h
          rw [Sum.inr_injective hv, ih ht.tail hu.tail h]
        | literal text => exact absurd h.symm (literal_atoms_ne hu)
      | literal text =>
        cases u with
        | placeholder w => exact absurd h (literal_atoms_ne ht)
        | literal text' =>
          obtain ⟨htext, h⟩ := append_inj_of_stop (p := Sum.isLeft) (by simp [tokenAtoms])
            (by simp [tokenAtoms]) (atoms_after_literal ht) (atoms_after_literal hu) h
          have htext : text.toList = text'.toList :=
            List.map_injective_iff.mpr Sum.inl_injective htext
          rw [String.toList_inj.mp htext, ih ht.tail hu.tail h]

end HttpTemplate.Placeholder
