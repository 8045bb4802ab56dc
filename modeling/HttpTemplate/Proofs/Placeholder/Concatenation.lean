import HttpTemplate.Proofs.Placeholder.Printing
import HttpTemplate.Proofs.Placeholder.Rendering
import HttpTemplate.Proofs.Text.Split

/-! Texts that are put together. No escape and no placeholder crosses the end of a text that has no
brace left open and no backslash at its end, so that what follows it is read as if it stood alone,
and rendered after it. -/

namespace HttpTemplate.Placeholder

open Faults

/-- No backslash at the end, and no opening brace after the last closing one. -/
structure Closed (s : List Char) : Prop where
  unslashed : s.getLast? ≠ some '\\'
  settled : '{' ∉ (Text.splitLast '}' s).2

section Closed

variable {x : Char} {s : List Char}

lemma closing_mem (h : Closed ('{' :: s)) : '}' ∈ s := by
  by_contra hs
  have hnot : '}' ∉ '{' :: s := by simpa using hs
  have hsettled := h.settled
  rw [Text.splitLast_of_notMem hnot] at hsettled
  exact hsettled List.mem_cons_self

lemma Closed.tail (h : Closed (x :: s)) : Closed s := by
  refine ⟨?_, ?_⟩
  · intro hlast
    refine h.unslashed ?_
    cases s with
    | nil => cases hlast
    | cons y s => simpa using hlast
  · have hsettled := h.settled
    rcases Text.splitLast_cases '}' s with ⟨hs, hcut⟩ | ⟨t, p, rfl, hp, hcut⟩
    · rw [hcut]
      by_cases hx : x = '}'
      · subst hx
        rwa [← List.nil_append ('}' :: s), Text.splitLast_append hs] at hsettled
      · have hnot : '}' ∉ x :: s := by simp [Ne.symm hx, hs]
        rw [Text.splitLast_of_notMem hnot] at hsettled
        exact mt (List.mem_cons_of_mem x) hsettled
    · rw [hcut]
      rwa [← List.cons_append, Text.splitLast_append hp] at hsettled

lemma Closed.of_append {p : List Char} (h : Closed (p ++ s)) : Closed s := by
  induction p with
  | nil => exact h
  | cons x p ih => exact ih h.tail

lemma closed_of_closing (p : List Char) : Closed (p ++ ['}']) := by
  refine ⟨by simp, ?_⟩
  rw [Text.splitLast_append List.not_mem_nil]
  exact List.not_mem_nil

end Closed

def Clauses.inner (c : Clauses) : List Char :=
  c.mark.toList ++ (c.name ++ (defaultText c.default ++ kindText c.kind))

lemma Clauses.text_eq (c : Clauses) : c.text = c.inner ++ ['}'] := by
  simp only [Clauses.text, Clauses.inner, List.append_assoc]

lemma closing_notMem_inner {c : Clauses} (hc : c.WellFormed) : '}' ∉ c.inner := by
  have hmark : '}' ∉ c.mark.toList := by
    intro h
    simpa using hc.mark '}' (by simpa using h)
  have hname : '}' ∉ c.name := fun h => hc.name '}' h (by simp)
  have hdefault : '}' ∉ Clauses.defaultText c.default := by
    cases hd : c.default with
    | none => simp [Clauses.defaultText]
    | some text =>
      have htext : '}' ∉ text := fun h => hc.default text hd '}' h (by simp)
      simp [Clauses.defaultText, htext]
  have hkind : '}' ∉ Clauses.kindText c.kind := by
    cases hk : c.kind with
    | none => simp [Clauses.kindText]
    | some k => cases k <;> simp [Clauses.kindText, Kind.name]
  simp [Clauses.inner, hmark, hname, hdefault, hkind]

section Seam

variable {x : Char} {s t : List Char}

lemma escapeAt_of_append (h : Closed (x :: s)) (he : EscapeAt (x :: (s ++ t))) :
    EscapeAt (x :: s) := by
  obtain ⟨b, rest, hb, hs⟩ := he
  obtain ⟨rfl, hrest⟩ := List.cons.inj hs
  cases s with
  | nil => exact absurd rfl h.unslashed
  | cons y s =>
    obtain ⟨rfl, -⟩ := List.cons.inj hrest
    exact ⟨y, s, hb, rfl⟩

lemma placeholderAt_of_append (h : Closed (x :: s)) (hp : PlaceholderAt (x :: (s ++ t))) :
    PlaceholderAt (x :: s) := by
  obtain ⟨c, rest, hc, hs⟩ := hp
  obtain ⟨rfl, hbody⟩ := List.cons.inj hs
  obtain ⟨p, q, rfl, hp⟩ := List.eq_append_cons_of_mem (closing_mem h)
  have hcut : (p, some (q ++ t)) = (c.inner, some rest) := by
    rw [← Text.splitFirst_append hp, ← Text.splitFirst_append (closing_notMem_inner hc)]
    simpa [Clauses.text_eq] using congrArg (Text.splitFirst '}') hbody
  obtain ⟨rfl, -⟩ := Prod.mk.inj hcut
  exact ⟨c, q, hc, by simp [Clauses.text_eq]⟩

lemma spans_append (t : List Char) (h : Closed s) : spans (s ++ t) = spans s ++ spans t := by
  obtain ⟨ps, hps⟩ := exists_cut s
  induction hps with
  | done => simp [spans]
  | escaped hb _ ih =>
    rw [List.cons_append, List.cons_append, spans_escaped hb, spans_escaped hb, ih h.tail.tail]
    rfl
  | placeholder hc _ ih =>
    rw [List.cons_append, List.append_assoc, spans_placeholder hc, spans_placeholder hc,
      ih h.tail.of_append]
    rfl
  | plain he hp _ ih =>
    rw [List.cons_append, spans_plain (mt (escapeAt_of_append h) he)
      (mt (placeholderAt_of_append h) hp), spans_plain he hp, ih h.tail]
    rfl

end Seam

def rendering (arguments : Arguments) (text : String) : Except VariableFault String :=
  ((Leaf.ofText text).substitute arguments).map Value.render

section Rendering

variable {arguments : Arguments} {a : String}

lemma rendering_eq (arguments : Arguments) (text : String) :
    rendering arguments text = renderAtoms arguments ((spans text.toList).map spanAtom) := by
  rw [rendering, render_substitute, ← atoms_tokens]
  rfl

lemma rendering_closed (h : Closed a.toList) (b : String) :
    rendering arguments (a ++ b) = inTurn (rendering arguments a) (rendering arguments b) := by
  simp only [rendering_eq, String.toList_append, spans_append _ h, List.map_append,
    renderAtoms_append]

lemma printable_placeholder {v : Variable} (h : Spellable v) : Printable [.placeholder v] where
  merged := merged_placeholder v merged_nil
  unescaping := List.isChain_singleton _
  spellable := by
    rintro w (_ | ⟨_, ⟨⟩⟩)
    exact h

lemma closed_print (v : Variable) : Closed (print [.placeholder v]).toList := by
  have htext : (print [.placeholder v]).toList =
      ('{' :: (Clauses.ofVariable v).inner) ++ ['}'] := by
    simp [print, tokenText, Clauses.text_eq]
  rw [htext]
  exact closed_of_closing _

lemma rendering_print {v : Variable} (h : Spellable v) :
    rendering arguments (print [.placeholder v]) = (v.resolve arguments).map Value.render := by
  rw [rendering, Leaf.ofText, parse_print (printable_placeholder h)]
  rfl

lemma resolve_text {v : Variable} {w : String} (hkind : v.kind = .string)
    (h : arguments.lookup v.name = .ok (some (.str w))) : v.resolve arguments = .ok (.str w) := by
  simp only [Variable.resolve, h, Variable.coerce, hkind]
  rfl

end Rendering

theorem rendering_append (arguments : Arguments) (a : String) (h : Closed a.toList) (b : String) :
    (rendering arguments (a ++ b) = do
      let s ← rendering arguments a
      let t ← rendering arguments b
      return s ++ t) ∧
    ∀ (v : Variable) (w : String), Spellable v → v.kind = .string →
      arguments.lookup v.name = .ok (some (.str w)) →
        rendering arguments (a ++ print [.placeholder v] ++ b) = do
          let s ← rendering arguments a
          let t ← rendering arguments b
          return s ++ w ++ t := by
  refine ⟨rendering_closed h b, fun v w hv hkind hw => ?_⟩
  rw [String.append_assoc, rendering_closed h, rendering_closed (closed_print v),
    rendering_print hv, resolve_text hkind hw]
  cases rendering arguments a with
  | error f => rfl
  | ok s =>
    cases rendering arguments b with
    | error f => rfl
    | ok t => exact congrArg Except.ok String.append_assoc.symm

lemma spellable_x : Spellable { name := "x" } where
  name_ne_empty := by simp
  name := by simp
  default := by simp

theorem rendering_append_escaped :
    let arguments : Arguments := .map [(.str "x", .str "{n}"), (.str "n", .int 7)]
    let a := "{x}\\\x7d"
    let b := "/{n:number}"
    Closed a.toList ∧ rendering arguments (a ++ b) = .ok "{n}\x7d/7" ∧
      rendering arguments (a ++ print [.placeholder { name := "x" }] ++ b) =
        .ok "{n}\x7d{n}/7" := by
  intro arguments a b
  have hclosed : Closed a.toList := ⟨by decide, by decide⟩
  have ha : rendering arguments a = .ok "{n}\x7d" := toOption_eq_some.mp (by decide +kernel)
  have hb : rendering arguments b = .ok "/7" := toOption_eq_some.mp (by decide +kernel)
  obtain ⟨happend, hverbatim⟩ := rendering_append arguments a hclosed b
  refine ⟨hclosed, ?_, ?_⟩
  · rw [happend, ha, hb]
    rfl
  · rw [hverbatim { name := "x" } "{n}" spellable_x rfl rfl, ha, hb]
    rfl

end HttpTemplate.Placeholder
