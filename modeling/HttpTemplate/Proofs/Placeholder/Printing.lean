import HttpTemplate.Proofs.Placeholder.Cuts

/-! The canonical text of tokens: braces are escaped and every placeholder is written with the mark
`!` if any. The tokens that such a text can stand for are those that are read from some text. -/

namespace HttpTemplate.Placeholder

def escapeBrace (x : Char) : List Char := if isBrace x then ['\\', x] else [x]

def Clauses.ofVariable (v : Variable) : Clauses where
  mark := if v.required then some '!' else none
  name := v.name.toList
  default := v.default.map String.toList
  kind := if v.kind = .string then none else some v.kind

def tokenText : Token → List Char
  | .literal text => text.toList.flatMap escapeBrace
  | .placeholder v => '{' :: (Clauses.ofVariable v).text

def print (ts : List Token) : String := String.ofList (ts.flatMap tokenText)

structure Spellable (v : Variable) : Prop where
  name_ne_empty : v.name ≠ ""
  name : ∀ x ∈ v.name.toList, x ∉ ['!', '^', '=', ':', '{', '}']
  default : ∀ text ∈ v.default, ∀ x ∈ text.toList, x ∉ [':', '}']

def Unescaping : Token → Token → Prop
  | .literal text, .placeholder _ => text.toList.getLast? ≠ some '\\'
  | _, _ => True

structure Printable (ts : List Token) : Prop where
  merged : Merged ts
  unescaping : ts.IsChain Unescaping
  spellable : ∀ v, .placeholder v ∈ ts → Spellable v

lemma toVariable_ofVariable (v : Variable) : (Clauses.ofVariable v).toVariable = v := by
  obtain ⟨name, required, default, kind⟩ := v
  cases required <;> cases default <;> cases kind <;> simp [Clauses.ofVariable, Clauses.toVariable]

lemma wellFormed_ofVariable {v : Variable} (h : Spellable v) : (Clauses.ofVariable v).WellFormed where
  mark := by cases hr : v.required <;> simp [Clauses.ofVariable, hr]
  name_ne_nil := by simpa [Clauses.ofVariable] using h.name_ne_empty
  name := h.name
  default := by
    intro text ht
    obtain ⟨d, hd, rfl⟩ := Option.map_eq_some_iff.mp ht
    exact h.default d hd
  kind := by cases hk : v.kind <;> simp [Clauses.ofVariable, hk]

lemma spellable_toVariable {c : Clauses} (h : c.WellFormed) : Spellable c.toVariable where
  name_ne_empty := by simpa [Clauses.toVariable] using h.name_ne_nil
  name := by simpa [Clauses.toVariable] using h.name
  default := by
    intro text ht
    obtain ⟨d, hd, rfl⟩ := Option.map_eq_some_iff.mp ht
    simpa using h.default d hd

section RoundTrip

lemma not_placeholderAt {x : Char} {s : List Char} (hx : x ≠ '{') : ¬ PlaceholderAt (x :: s) := by
  rintro ⟨c, rest, -, hs⟩
  exact hx (List.cons.inj hs).1

lemma not_escapeAt {x : Char} {cs rest : List Char}
    (h : (x :: cs).getLast? = some '\\' → rest = []) :
    ¬ EscapeAt (x :: (cs.flatMap escapeBrace ++ rest)) := by
  rintro ⟨b, s, hb, hs⟩
  obtain ⟨rfl, hs⟩ := List.cons.inj hs
  cases cs with
  | nil => simp [h rfl] at hs
  | cons c cs =>
    by_cases hc : isBrace c = true
    · simp only [List.flatMap_cons, escapeBrace, hc, if_true, List.cons_append, List.cons.injEq] at hs
      obtain ⟨-, rfl, -⟩ := hs
      simp at hb
    · simp only [List.flatMap_cons, escapeBrace, hc, Bool.false_eq_true, if_false,
        List.cons_append, List.cons.injEq] at hs
      obtain ⟨-, rfl, -⟩ := hs
      exact hc (isBrace_iff.mpr hb)

lemma atoms_escapeBrace {cs rest : List Char} (h : cs.getLast? = some '\\' → rest = []) :
    (spans (cs.flatMap escapeBrace ++ rest)).map spanAtom =
      cs.map .inl ++ (spans rest).map spanAtom := by
  induction cs with
  | nil => rfl
  | cons c cs ih =>
    have hcs : cs.getLast? = some '\\' → rest = [] := by
      intro hl
      refine h ?_
      cases cs with
      | nil => cases hl
      | cons c' cs => simpa using hl
    by_cases hc : isBrace c = true
    · simp only [List.flatMap_cons, escapeBrace, hc, if_true, List.cons_append, List.nil_append,
        spans_escaped (isBrace_iff.mp hc), List.map_cons, spanAtom]
      rw [← ih hcs]
    · have hbrace : c ≠ '{' := by
        rintro rfl
        exact hc rfl
      simp only [List.flatMap_cons, escapeBrace, hc, Bool.false_eq_true, if_false, List.cons_append,
        List.nil_append, spans_plain (not_escapeAt h) (not_placeholderAt hbrace), List.map_cons,
        spanAtom]
      rw [← ih hcs]

lemma printable_tail {t : Token} {ts : List Token} (h : Printable (t :: ts)) : Printable ts :=
  ⟨h.merged.tail, (List.isChain_cons.mp h.unescaping).2,
    fun v hv => h.spellable v (List.mem_cons_of_mem t hv)⟩

lemma ends_of_backslash {text : String} {ts : List Token} (h : Printable (.literal text :: ts))
    (hl : text.toList.getLast? = some '\\') : ts.flatMap tokenText = [] := by
  cases ts with
  | nil => rfl
  | cons t ts =>
    cases t with
    | literal text' => exact (List.isChain_cons_cons.mp h.merged.apart).1.elim
    | placeholder v => exact absurd hl (List.isChain_cons_cons.mp h.unescaping).1

lemma atoms_print {ts : List Token} (h : Printable ts) :
    (spans (ts.flatMap tokenText)).map spanAtom = atoms ts := by
  induction ts with
  | nil => simp [spans]
  | cons t ts ih =>
    have ih := ih (printable_tail h)
    cases t with
    | literal text =>
      rw [List.flatMap_cons, tokenText, atoms_escapeBrace (ends_of_backslash h), ih]
      rfl
    | placeholder v =>
      have hv := wellFormed_ofVariable (h.spellable v (by simp))
      rw [List.flatMap_cons, tokenText, List.cons_append, spans_placeholder hv, List.map_cons, ih,
        toVariable_ofVariable]
      rfl

lemma parse_print {ts : List Token} (h : Printable ts) : parse (print ts) = ts := by
  refine merged_unique (merged_tokens _) h.merged ?_
  rw [parse, atoms_tokens, print, String.toList_ofList, atoms_print h]

end RoundTrip

section Image

def Unslashed (a b : Atom) : Prop := a = .inl '\\' → b.isLeft = true

lemma brace_of_cut {s : List Char} {ps : List Piece} (h : Cut s ps) :
    ∀ a ∈ (ps.map Piece.atom).head?, a.isLeft = false → s.head? = some '{' := by
  cases h with
  | done => simp
  | escaped _ _ => simp [Piece.atom, Piece.span, spanAtom]
  | placeholder _ _ => simp
  | plain _ _ _ => simp [Piece.atom, Piece.span, spanAtom]

lemma unslashed_of_cut {s : List Char} {ps : List Piece} (h : Cut s ps) :
    (ps.map Piece.atom).IsChain Unslashed := by
  induction h with
  | done => exact .nil
  | @escaped b s ps hb _ ih =>
    refine List.isChain_cons.mpr ⟨fun a _ hbs => ?_, ih⟩
    obtain rfl := Sum.inl_injective hbs
    simp at hb
  | placeholder _ _ ih =>
    refine List.isChain_cons.mpr ⟨fun a _ hbs => ?_, ih⟩
    cases hbs
  | @plain x s ps he _ hcut ih =>
    refine List.isChain_cons.mpr ⟨fun a ha hbs => ?_, ih⟩
    obtain rfl := Sum.inl_injective hbs
    by_contra hleft
    have hs := brace_of_cut hcut a ha (Bool.eq_false_iff.mpr hleft)
    cases s with
    | nil => cases hs
    | cons b s => exact he ⟨b, s, by simpa using Or.inl (Option.some.inj hs), rfl⟩

lemma unescaping_of_atoms {ts : List Token} (h : (atoms ts).IsChain Unslashed) :
    ts.IsChain Unescaping := by
  induction ts with
  | nil => exact .nil
  | cons t ts ih =>
    rw [atoms_cons] at h
    obtain ⟨-, hts, hjoin⟩ := List.isChain_append.mp h
    refine List.isChain_cons.mpr ⟨?_, ih hts⟩
    intro u hu
    cases t with
    | placeholder v => trivial
    | literal text =>
      cases u with
      | literal text' => trivial
      | placeholder v =>
        obtain ⟨us, rfl⟩ := List.head?_eq_some_iff.mp hu
        intro hl
        exact Bool.false_ne_true (hjoin (.inl '\\') (by simp [tokenAtoms, hl]) (.inr v) (by simp) rfl)

lemma wellFormed_of_cut {s : List Char} {ps : List Piece} (h : Cut s ps) :
    ∀ c, .placeholder c ∈ ps → c.WellFormed := by
  induction h with
  | done => simp
  | escaped _ _ ih => simpa using ih
  | placeholder hc _ ih =>
    rintro d (_ | ⟨_, hd⟩)
    · exact hc
    · exact ih d hd
  | plain _ _ _ ih => simpa using ih

lemma spellable_of_cut {s : List Char} {ps : List Piece} (h : Cut s ps) {v : Variable}
    (hv : .inr v ∈ ps.map Piece.atom) : Spellable v := by
  obtain ⟨p, hp, hpv⟩ := List.mem_map.mp hv
  cases p with
  | escaped b => cases hpv
  | placeholder c =>
    obtain rfl := Sum.inr_injective hpv
    exact spellable_toVariable (wellFormed_of_cut h c hp)
  | plain x => cases hpv

lemma printable_parse (text : String) : Printable (parse text) := by
  obtain ⟨ps, hps⟩ := exists_cut text.toList
  have hatoms : atoms (parse text) = ps.map Piece.atom := atoms_parse hps
  refine ⟨merged_tokens _, unescaping_of_atoms (hatoms ▸ unslashed_of_cut hps), fun v hv => ?_⟩
  refine spellable_of_cut hps (hatoms ▸ ?_)
  exact List.mem_flatMap.mpr ⟨_, hv, by simp⟩

end Image

theorem printable_iff_parsed :
    (∀ ts, Printable ts → parse (print ts) = ts) ∧
    (∀ text, Printable (parse text)) ∧
    (∀ ts, Printable ts ↔ ∃ text, parse text = ts) ∧
    ∀ text, parse (print (parse text)) = parse text := by
  refine ⟨fun _ => parse_print, printable_parse, fun ts => ⟨?_, ?_⟩, ?_⟩
  · intro h
    exact ⟨print ts, parse_print h⟩
  · rintro ⟨text, rfl⟩
    exact printable_parse text
  · intro text
    exact parse_print (printable_parse text)

end HttpTemplate.Placeholder
