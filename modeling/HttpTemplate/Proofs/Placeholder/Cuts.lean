import HttpTemplate.Proofs.Placeholder.Clauses
import HttpTemplate.Proofs.Placeholder.Merging

/-! The cut of a text into escaped braces, placeholders and plain characters, said position by
position. Every text has exactly one cut, and the tokens of the text are those of its cut. -/

namespace HttpTemplate.Placeholder

inductive Piece where
  | escaped (brace : Char)
  | placeholder (c : Clauses)
  | plain (x : Char)

namespace Piece

def text : Piece → List Char
  | escaped b => ['\\', b]
  | placeholder c => '{' :: c.text
  | plain x => [x]

def span : Piece → Span
  | escaped b => .escaped b
  | placeholder c => .placeholder c.toVariable
  | plain x => .plain x

def atom (p : Piece) : Atom := spanAtom p.span

end Piece

def EscapeAt (s : List Char) : Prop := ∃ b rest, b ∈ ['{', '}'] ∧ s = '\\' :: b :: rest

def PlaceholderAt (s : List Char) : Prop :=
  ∃ c rest, Clauses.WellFormed c ∧ s = '{' :: (c.text ++ rest)

inductive Cut : List Char → List Piece → Prop
  | done : Cut [] []
  | escaped {b : Char} {s : List Char} {ps : List Piece} :
      b ∈ ['{', '}'] → Cut s ps → Cut ('\\' :: b :: s) (.escaped b :: ps)
  | placeholder {c : Clauses} {s : List Char} {ps : List Piece} :
      c.WellFormed → Cut s ps → Cut ('{' :: (c.text ++ s)) (.placeholder c :: ps)
  | plain {x : Char} {s : List Char} {ps : List Piece} :
      ¬ EscapeAt (x :: s) → ¬ PlaceholderAt (x :: s) → Cut s ps → Cut (x :: s) (.plain x :: ps)

lemma isBrace_iff {x : Char} : isBrace x = true ↔ x ∈ ['{', '}'] := by simp [isBrace]

lemma body_eq_none {s : List Char} (h : ¬ PlaceholderAt ('{' :: s)) : body? s = none := by
  cases hb : body? s with
  | none => rfl
  | some r =>
    obtain ⟨c, hc, rfl, -⟩ := clauses_of_body hb
    exact (h ⟨c, r.2, hc, rfl⟩).elim

lemma spans_escaped {b : Char} (hb : b ∈ ['{', '}']) (s : List Char) :
    spans ('\\' :: b :: s) = .escaped b :: spans s := by
  rw [spans, if_pos (isBrace_iff.mpr hb)]

lemma spans_placeholder {c : Clauses} (hc : c.WellFormed) (s : List Char) :
    spans ('{' :: (c.text ++ s)) = .placeholder c.toVariable :: spans s := by
  rw [spans]
  split
  · next v rest h =>
    rw [body_text hc] at h
    cases h
    rfl
  · next h =>
    rw [body_text hc] at h
    cases h

lemma spans_plain {x : Char} {s : List Char} (he : ¬ EscapeAt (x :: s))
    (hp : ¬ PlaceholderAt (x :: s)) : spans (x :: s) = .plain x :: spans s := by
  by_cases hx : x = '{'
  · subst hx
    rw [spans]
    split
    · next v rest h => exact absurd (body_eq_none hp) (by simp [h])
    · rfl
  · by_cases hb : x = '\\'
    · subst hb
      cases s with
      | nil => simp [spans]
      | cons b s =>
        rw [spans, if_neg fun h => he ⟨b, s, isBrace_iff.mp h, rfl⟩]
    · rw [spans]
      · rintro c s' rfl
        exact absurd rfl hb
      · exact hx

lemma spans_of_cut {s : List Char} {ps : List Piece} (h : Cut s ps) : spans s = ps.map Piece.span := by
  induction h with
  | done => rw [spans, List.map_nil]
  | escaped hb _ ih => rw [spans_escaped hb, ih]; rfl
  | placeholder hc _ ih => rw [spans_placeholder hc, ih]; rfl
  | plain he hp _ ih => rw [spans_plain he hp, ih]; rfl

lemma exists_cut (s : List Char) : ∃ ps, Cut s ps := by
  induction hn : s.length using Nat.strongRecOn generalizing s with
  | _ n ih =>
    subst hn
    cases s with
    | nil => exact ⟨[], .done⟩
    | cons x s =>
      by_cases he : EscapeAt (x :: s)
      · obtain ⟨b, rest, hb, hs⟩ := he
        have hlt : rest.length < (x :: s).length := by
          simp only [hs, List.length_cons]
          omega
        obtain ⟨ps, hps⟩ := ih rest.length hlt rest rfl
        exact ⟨_, hs ▸ hps.escaped hb⟩
      · by_cases hp : PlaceholderAt (x :: s)
        · obtain ⟨c, rest, hc, hs⟩ := hp
          have hlt : rest.length < (x :: s).length := by
            simp only [hs, List.length_cons, List.length_append]
            omega
          obtain ⟨ps, hps⟩ := ih rest.length hlt rest rfl
          exact ⟨_, hs ▸ hps.placeholder hc⟩
        · obtain ⟨ps, hps⟩ := ih s.length (by simp) s rfl
          exact ⟨_, hps.plain he hp⟩

lemma text_of_cut {s : List Char} {ps : List Piece} (h : Cut s ps) : ps.flatMap Piece.text = s := by
  induction h with
  | done => rfl
  | escaped _ _ ih => rw [List.flatMap_cons, ih]; rfl
  | placeholder _ _ ih => rw [List.flatMap_cons, ih]; rfl
  | plain _ _ _ ih => rw [List.flatMap_cons, ih]; rfl

lemma cut_unique {s : List Char} {ps qs : List Piece} (h : Cut s ps) (h' : Cut s qs) : ps = qs := by
  induction h generalizing qs with
  | done =>
    cases h'
    rfl
  | @escaped b s ps hb _ ih =>
    cases h' with
    | escaped _ h' => rw [ih h']
    | plain he _ _ => exact (he ⟨b, s, hb, rfl⟩).elim
  | @placeholder c s ps hc _ ih =>
    generalize hs : '{' :: (c.text ++ s) = t at h'
    cases h' with
    | done => cases hs
    | escaped _ _ => cases hs
    | @placeholder d s' _ hd h' =>
      obtain ⟨rfl, rfl⟩ := text_unique hc hd (List.cons.inj hs).2
      rw [ih h']
    | plain _ hp _ => exact (hp ⟨c, s, hc, hs.symm⟩).elim
  | @plain x s ps he hp _ ih =>
    generalize hs : x :: s = t at h'
    cases h' with
    | done => cases hs
    | escaped hb _ => exact (he ⟨_, _, hb, hs⟩).elim
    | placeholder hc _ => exact (hp ⟨_, _, hc, hs⟩).elim
    | plain _ _ h' =>
      cases hs
      rw [ih h']

lemma atoms_parse {text : String} {ps : List Piece} (h : Cut text.toList ps) :
    atoms (parse text) = ps.map Piece.atom := by
  rw [parse, atoms_tokens, spans_of_cut h, List.map_map]
  rfl

def bodyAt? (text : List Char) (start : Nat) : Option (Variable × Nat) :=
  (body? (text.drop start)).map fun (v, rest) => (v, text.length - rest.length)

def WrittenAt (text : List Char) (start stop : Nat) (c : Clauses) : Prop :=
  stop ≤ text.length ∧ (text.take stop).drop start = c.text

lemma text_ne_nil (c : Clauses) : c.text ≠ [] := by simp [Clauses.text]

lemma writtenAt_iff {text : List Char} {start stop : Nat} {c : Clauses} :
    WrittenAt text start stop c ↔
      ∃ rest, text.drop start = c.text ++ rest ∧ stop = text.length - rest.length := by
  constructor
  · rintro ⟨hstop, htext⟩
    have hlen := congrArg List.length htext
    have hpos := List.length_pos_iff.mpr (text_ne_nil c)
    simp only [List.length_drop, List.length_take] at hlen
    have hstart : start ≤ (text.take stop).length := by
      rw [List.length_take]
      omega
    refine ⟨text.drop stop, ?_, ?_⟩
    · rw [← htext, ← List.drop_append_of_le_length hstart, List.take_append_drop]
    · rw [List.length_drop]
      omega
  · rintro ⟨rest, htext, rfl⟩
    have hlen := congrArg List.length htext
    have hpos := List.length_pos_iff.mpr (text_ne_nil c)
    simp only [List.length_drop, List.length_append] at hlen
    refine ⟨by omega, ?_⟩
    rw [List.drop_take, htext]
    exact List.take_left' (by omega)

lemma bodyAt_iff {text : List Char} {start stop : Nat} {v : Variable} :
    bodyAt? text start = some (v, stop) ↔
      ∃ c : Clauses, c.WellFormed ∧ WrittenAt text start stop c ∧ c.toVariable = v := by
  simp only [bodyAt?, Option.map_eq_some_iff, Prod.exists, body_iff, Prod.mk.injEq, writtenAt_iff]
  constructor
  · rintro ⟨v, rest, ⟨c, hc, hs, rfl⟩, rfl, rfl⟩
    exact ⟨c, hc, ⟨rest, hs, rfl⟩, rfl⟩
  · rintro ⟨c, hc, ⟨rest, hs, rfl⟩, rfl⟩
    exact ⟨c.toVariable, rest, ⟨c, hc, hs, rfl⟩, rfl, rfl⟩

lemma writtenAt_unique {text : List Char} {start stop stop' : Nat} {c d : Clauses}
    (hc : c.WellFormed) (hd : d.WellFormed) (h : WrittenAt text start stop c)
    (h' : WrittenAt text start stop' d) : c = d ∧ stop = stop' := by
  obtain ⟨rest, hs, rfl⟩ := writtenAt_iff.mp h
  obtain ⟨rest', hs', rfl⟩ := writtenAt_iff.mp h'
  obtain ⟨rfl, rfl⟩ := text_unique hc hd (hs.symm.trans hs')
  exact ⟨rfl, rfl⟩

theorem parse_recognises_grammar :
    (∀ (text : List Char) (start stop : Nat) (v : Variable),
      bodyAt? text start = some (v, stop) ↔
        ∃ c : Clauses, c.WellFormed ∧ WrittenAt text start stop c ∧ c.toVariable = v) ∧
    (∀ (text : List Char) (start stop stop' : Nat) (c d : Clauses), c.WellFormed → d.WellFormed →
      WrittenAt text start stop c → WrittenAt text start stop' d → c = d ∧ stop = stop') ∧
    ∀ text : String, ∃ ps, Cut text.toList ps ∧ (∀ qs, Cut text.toList qs → qs = ps) ∧
      ps.flatMap Piece.text = text.toList ∧
      Merged (parse text) ∧ atoms (parse text) = ps.map Piece.atom ∧
      ∀ ts, Merged ts → atoms ts = ps.map Piece.atom → ts = parse text := by
  refine ⟨fun _ _ _ _ => bodyAt_iff, fun _ _ _ _ _ _ => writtenAt_unique, fun text => ?_⟩
  obtain ⟨ps, hps⟩ := exists_cut text.toList
  refine ⟨ps, hps, fun qs hqs => cut_unique hqs hps, text_of_cut hps, merged_tokens _,
    atoms_parse hps, ?_⟩
  intro ts hts h
  exact merged_unique hts (merged_tokens _) (h.trans (atoms_parse hps).symm)

end HttpTemplate.Placeholder
