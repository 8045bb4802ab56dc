import HttpTemplate.Placeholder.Scan
import Mathlib.Data.List.TakeWhile

/-! The clauses of a placeholder as they are written, and their reader: it accepts exactly the texts
of well-formed clauses, which are thereby unique. -/

namespace HttpTemplate.Placeholder

structure Clauses where
  mark : Option Char
  name : List Char
  default : Option (List Char)
  kind : Option Kind
deriving DecidableEq

namespace Clauses

def defaultText : Option (List Char) → List Char
  | some text => '=' :: text
  | none => []

def kindText : Option Kind → List Char
  | some k => ':' :: k.name.toList
  | none => []

/-- What stands after the opening brace, up to and with the closing one. -/
def text (c : Clauses) : List Char :=
  c.mark.toList ++ (c.name ++ (defaultText c.default ++ (kindText c.kind ++ ['}'])))

def toVariable (c : Clauses) : Variable where
  name := String.ofList c.name
  required := c.mark.isSome
  default := c.default.map String.ofList
  kind := c.kind.getD .string

structure WellFormed (c : Clauses) : Prop where
  mark : ∀ m ∈ c.mark, m ∈ ['!', '^']
  name_ne_nil : c.name ≠ []
  name : ∀ x ∈ c.name, x ∉ ['!', '^', '=', ':', '{', '}']
  default : ∀ text ∈ c.default, ∀ x ∈ text, x ∉ [':', '}']
  kind : ∀ k ∈ c.kind, k ∈ [Kind.number, Kind.boolean]

end Clauses

open Clauses

lemma isMark_iff {x : Char} : isMark x = true ↔ x ∈ ['!', '^'] := by simp [isMark]

lemma endsName_iff {x : Char} : endsName x = true ↔ x ∈ ['!', '^', '=', ':', '{', '}'] := by
  simp [endsName, isMark, isBrace, or_assoc]

lemma endsName_eq_false {x : Char} : endsName x = false ↔ x ∉ ['!', '^', '=', ':', '{', '}'] :=
  Bool.eq_false_iff.trans endsName_iff.not

lemma endsDefault_iff {x : Char} : endsDefault x = true ↔ x ∈ [':', '}'] := by simp [endsDefault]

lemma endsDefault_eq_false {x : Char} : endsDefault x = false ↔ x ∉ [':', '}'] :=
  Bool.eq_false_iff.trans endsDefault_iff.not

lemma cut_append {stop : Char → Bool} {run rest : List Char} (h : ∀ x ∈ run, stop x = false)
    (hr : ∀ x ∈ rest.head?, stop x = true) : cut stop (run ++ rest) = (run, rest) := by
  have hp : ∀ x ∈ run, (!stop x) = true := by simpa using h
  rw [cut, List.takeWhile_append_of_pos hp, List.dropWhile_append_of_pos hp]
  cases rest with
  | nil => simp
  | cons x rest => simp [hr x rfl]

lemma append_of_cut (stop : Char → Bool) (s : List Char) :
    s = (cut stop s).1 ++ (cut stop s).2 := List.takeWhile_append_dropWhile.symm

lemma not_stop_of_mem_cut {stop : Char → Bool} {s : List Char} {x : Char}
    (h : x ∈ (cut stop s).1) : stop x = false := by
  simpa using List.mem_takeWhile_imp h

lemma mark_cases (s : List Char) :
    ∃ m : Option Char, (∀ x ∈ m, x ∈ ['!', '^']) ∧ s = m.toList ++ (mark s).2 ∧
      (mark s).1 = m.isSome := by
  cases s with
  | nil => exact ⟨none, by simp [mark]⟩
  | cons x s =>
    by_cases h : isMark x = true
    · exact ⟨some x, by simpa using isMark_iff.mp h, by simp [mark, h]⟩
    · exact ⟨none, by simp [mark, h]⟩

lemma default_cases (s : List Char) :
    ∃ d : Option (List Char), (∀ text ∈ d, ∀ x ∈ text, x ∉ [':', '}']) ∧
      s = defaultText d ++ (default? s).2 ∧ (default? s).1 = d.map String.ofList := by
  rw [default?.eq_def]
  split
  · next s =>
    refine ⟨some (cut endsDefault s).1, ?_, ?_, rfl⟩
    · rintro text ⟨⟩ x hx
      exact endsDefault_eq_false.mp (not_stop_of_mem_cut hx)
    · exact congrArg ('=' :: ·) (append_of_cut endsDefault s)
  · exact ⟨none, by simp, rfl, rfl⟩

lemma kindNamed_eq_some {name : String} {k : Kind} (h : kindNamed? name = some k) :
    name = k.name ∧ k ∈ [Kind.number, Kind.boolean] := by
  simp only [kindNamed?] at h
  split at h
  · cases h
    exact ⟨‹_›, by simp⟩
  · split at h
    · cases h
      exact ⟨‹_›, by simp⟩
    · cases h

lemma kind_cases {s rest : List Char} {k : Kind} (h : kind? s = some (k, rest)) :
    ∃ o : Option Kind, (∀ k ∈ o, k ∈ [Kind.number, Kind.boolean]) ∧ s = kindText o ++ rest ∧
      o.getD .string = k := by
  rw [kind?.eq_def] at h
  split at h
  · next s =>
    obtain ⟨k', hk, h⟩ := Option.map_eq_some_iff.mp h
    cases h
    obtain ⟨hname, hmem⟩ := kindNamed_eq_some hk
    refine ⟨some k, by simpa using hmem, ?_, rfl⟩
    simp only [kindText, ← hname, String.toList_ofList, List.cons_append]
    exact congrArg (':' :: ·) (append_of_cut endsKind s)
  · cases h
    exact ⟨none, by simp, rfl, rfl⟩

lemma kind_kindText {o : Option Kind} {rest : List Char}
    (ho : ∀ k ∈ o, k ∈ [Kind.number, Kind.boolean]) :
    kind? (kindText o ++ '}' :: rest) = some (o.getD .string, '}' :: rest) := by
  cases o with
  | none => simp [kindText, kind?]
  | some k =>
    have hk : ∀ x ∈ k.name.toList, endsKind x = false := by
      rcases k with _ | _ | _ <;> simp [Kind.name, endsKind] at ho ⊢
    have hcut : cut endsKind (k.name.toList ++ '}' :: rest) = (k.name.toList, '}' :: rest) :=
      cut_append hk (by simp [endsKind])
    have hname : kindNamed? (String.ofList k.name.toList) = some k := by
      rcases k with _ | _ | _ <;> simp at ho <;> simp [kindNamed?, Kind.name]
    simp only [kindText, List.cons_append, kind?, hcut, hname]
    rfl

lemma default_defaultText {d : Option (List Char)} {rest : List Char}
    (hd : ∀ text ∈ d, ∀ x ∈ text, x ∉ [':', '}']) (hr : ∀ x ∈ rest.head?, x ∈ [':', '}']) :
    default? (defaultText d ++ rest) = (d.map String.ofList, rest) := by
  cases d with
  | none =>
    cases rest with
    | nil => rfl
    | cons x rest =>
      have hx : x ≠ '=' := by
        rintro rfl
        simpa using hr '=' rfl
      simp [defaultText, default?, hx]
  | some text =>
    have ht : ∀ x ∈ text, endsDefault x = false := by
      intro x hx
      exact endsDefault_eq_false.mpr (hd text rfl x hx)
    have hcut := cut_append ht (fun x hx => endsDefault_iff.mpr (hr x hx))
    simp only [defaultText, List.cons_append, default?, hcut]
    rfl

lemma head_defaultText (d : Option (List Char)) (o : Option Kind) (rest : List Char) :
    ∀ x ∈ (defaultText d ++ (kindText o ++ '}' :: rest)).head?, x ∈ ['=', ':', '}'] := by
  cases d <;> cases o <;> simp [defaultText, kindText]

lemma head_kindText (o : Option Kind) (rest : List Char) :
    ∀ x ∈ (kindText o ++ '}' :: rest).head?, x ∈ [':', '}'] := by
  cases o <;> simp [kindText]

lemma mark_append {c : Clauses} (hc : c.WellFormed) (rest : List Char) :
    mark (c.mark.toList ++ (c.name ++ rest)) = (c.mark.isSome, c.name ++ rest) := by
  cases hm : c.mark with
  | some m => simp [mark, isMark_iff.mpr (hc.mark m hm)]
  | none =>
    cases hn : c.name with
    | nil => exact absurd hn hc.name_ne_nil
    | cons x name =>
      have hx : endsName x = false := endsName_eq_false.mpr (hc.name x (by simp [hn]))
      have hx : isMark x = false := by
        simp only [endsName, Bool.or_eq_false_iff] at hx
        exact hx.1.1.1
      simp [mark, hx]

lemma body_text {c : Clauses} (hc : c.WellFormed) (rest : List Char) :
    body? (c.text ++ rest) = some (c.toVariable, rest) := by
  have hname : ∀ x ∈ c.name, endsName x = false := by
    intro x hx
    exact endsName_eq_false.mpr (hc.name x hx)
  have hstop : ∀ x ∈ (defaultText c.default ++ (kindText c.kind ++ '}' :: rest)).head?,
      endsName x = true := by
    intro x hx
    have hsub : ['=', ':', '}'] ⊆ ['!', '^', '=', ':', '{', '}'] := by simp
    exact endsName_iff.mpr (hsub (head_defaultText c.default c.kind rest x hx))
  have hne : c.name.isEmpty = false := by simpa using hc.name_ne_nil
  simp only [Clauses.text, List.append_assoc, List.cons_append, List.nil_append, body?,
    mark_append hc, cut_append hname hstop, hne, Bool.false_eq_true, if_false,
    default_defaultText hc.default (head_kindText c.kind rest), kind_kindText hc.kind]
  rfl

lemma clauses_of_body {s rest : List Char} {v : Variable} (h : body? s = some (v, rest)) :
    ∃ c : Clauses, c.WellFormed ∧ s = c.text ++ rest ∧ c.toVariable = v := by
  obtain ⟨m, hm, hs, hrequired⟩ := mark_cases s
  obtain ⟨d, hd, hrest, hdefault⟩ := default_cases (cut endsName (mark s).2).2
  have hcut := append_of_cut endsName (mark s).2
  simp only [body?] at h
  split at h
  · cases h
  next hne =>
  split at h
  · next k rest' hk =>
    cases h
    obtain ⟨o, ho, hkind, rfl⟩ := kind_cases hk
    refine ⟨⟨m, (cut endsName (mark s).2).1, d, o⟩, ⟨hm, ?_, ?_, hd, ho⟩, ?_, ?_⟩
    · simpa using hne
    · intro x hx
      exact endsName_eq_false.mp (not_stop_of_mem_cut hx)
    · simp only [Clauses.text, List.append_assoc, List.cons_append, List.nil_append]
      rw [← hkind, ← hrest, ← hcut, ← hs]
    · simp [Clauses.toVariable, hrequired, hdefault]
  · cases h

lemma body_iff {s rest : List Char} {v : Variable} :
    body? s = some (v, rest) ↔
      ∃ c : Clauses, c.WellFormed ∧ s = c.text ++ rest ∧ c.toVariable = v := by
  constructor
  · exact clauses_of_body
  · rintro ⟨c, hc, rfl, rfl⟩
    exact body_text hc rest

lemma kind_injective {o o' : Option Kind} (ho : ∀ k ∈ o, k ∈ [Kind.number, Kind.boolean])
    (ho' : ∀ k ∈ o', k ∈ [Kind.number, Kind.boolean]) (h : o.getD .string = o'.getD .string) :
    o = o' := by
  rcases o with _ | _ | _ | _ <;> rcases o' with _ | _ | _ | _ <;> simp_all

lemma toVariable_injective {c d : Clauses} (hc : c.WellFormed) (hd : d.WellFormed)
    (hmark : c.mark = d.mark) (h : c.toVariable = d.toVariable) : c = d := by
  obtain ⟨m, name, default, kind⟩ := c
  obtain ⟨m', name', default', kind'⟩ := d
  simp only [Clauses.toVariable, Variable.mk.injEq, String.ofList_inj] at h
  obtain ⟨hname, -, hdefault, hkind⟩ := h
  have hdefault : default = default' :=
    Option.map_injective (fun _ _ => String.ofList_inj.mp) hdefault
  have hkind : kind = kind' := kind_injective hc.kind hd.kind hkind
  rw [hname, hdefault, hkind]
  exact congrArg (Clauses.mk · _ _ _) hmark

lemma mark_eq_of_text_eq {c d : Clauses} {rest rest' : List Char}
    (hc : c.mark.isSome = d.mark.isSome) (h : c.text ++ rest = d.text ++ rest') :
    c.mark = d.mark := by
  cases hm : c.mark <;> cases hm' : d.mark <;> simp_all [Clauses.text]

lemma text_unique {c d : Clauses} {rest rest' : List Char} (hc : c.WellFormed)
    (hd : d.WellFormed) (h : c.text ++ rest = d.text ++ rest') : c = d ∧ rest = rest' := by
  have hread := (body_text hc rest).symm.trans ((congrArg body? h).trans (body_text hd rest'))
  obtain ⟨hv, hrest⟩ := Prod.mk.inj (Option.some.inj hread)
  have hmark := mark_eq_of_text_eq (congrArg Variable.required hv) h
  exact ⟨toVariable_injective hc hd hmark hv, hrest⟩

end HttpTemplate.Placeholder
