import HttpTemplate.Proofs.Text.Split
import HttpTemplate.Url.Percent

/-! Quoting a component whose percent signs are left alone spells each character on its own, has
nothing to do a second time, and does not change what the component reads as. -/

namespace HttpTemplate.Url

lemma hexDigit_spec : ∀ n < 16, isHexDigit (hexDigit n) = true ∧ hexValue (hexDigit n) = n := by
  decide

lemma isUnreserved_of_isHexDigit {c : Char} (h : isHexDigit c = true) : isUnreserved c = true := by
  simp only [isHexDigit, isUnreserved, isAlpha, isDigit, Bool.or_eq_true, Bool.and_eq_true,
    decide_eq_true_eq] at h ⊢
  have hf : ('f' ≤ 'z') ∧ ('F' ≤ 'Z') := by decide
  rcases h with (h | ⟨hl, hh⟩) | ⟨hl, hh⟩
  · exact .inl (.inl (.inl (.inl (.inr h))))
  · exact .inl (.inl (.inl (.inl (.inl (.inl ⟨hl, Char.le_trans hh hf.1⟩)))))
  · exact .inl (.inl (.inl (.inl (.inl (.inr ⟨hl, Char.le_trans hh hf.2⟩)))))

lemma mem_percentChar {c d : Char} (h : c ∈ percentChar d) : c = '%' ∨ isHexDigit c = true := by
  obtain ⟨b, -, hb⟩ := List.mem_flatMap.mp h
  have hlt : b.toNat < 256 := b.toNat_lt
  simp only [percentByte, List.mem_cons, List.not_mem_nil, or_false] at hb
  rcases hb with rfl | rfl | rfl
  · exact .inl rfl
  · exact .inr (hexDigit_spec _ (by omega)).1
  · exact .inr (hexDigit_spec _ (by omega)).1

lemma percentChar_eq_cons (c : Char) : ∃ a b s, percentChar c = '%' :: a :: b :: s := by
  cases h : String.utf8EncodeChar c with
  | nil => exact absurd h String.utf8EncodeChar_ne_nil
  | cons b bs => exact ⟨_, _, _, by rw [percentChar, h]; rfl⟩

/-- All characters may stand as they are where `safe` says which others than unreserved ones may. -/
def Kept (safe : Char → Bool) (s : List Char) : Prop :=
  ∀ c ∈ s, (isUnreserved c || safe c) = true

section Quoting

variable {safe : Char → Bool} {s : List Char}

lemma Kept.append {t : List Char} (hs : Kept safe s) (ht : Kept safe t) : Kept safe (s ++ t) := by
  intro c hc
  rcases List.mem_append.mp hc with hc | hc
  · exact hs c hc
  · exact ht c hc

lemma Kept.notMem (h : Kept safe s) {c : Char} (hc : (isUnreserved c || safe c) = false) :
    c ∉ s := by
  intro hmem
  exact nomatch (h c hmem).symm.trans hc

lemma quoteChar_of_kept {c : Char} (h : (isUnreserved c || safe c) = true) :
    quoteChar safe c = [c] := by
  rw [quoteChar, if_pos h]

variable (hpercent : safe '%' = true)

include hpercent

lemma quote_eq_flatMap (s : List Char) : quote safe s = s.flatMap (quoteChar safe) := by
  have hp : quoteChar safe '%' = ['%'] := quoteChar_of_kept (by simp [hpercent])
  fun_induction quote safe s with
  | case1 => rfl
  | case2 a b s h ih =>
    obtain ⟨ha, hb⟩ := Bool.and_eq_true_iff.mp h
    have hqa : quoteChar safe a = [a] :=
      quoteChar_of_kept (by simp [isUnreserved_of_isHexDigit ha])
    have hqb : quoteChar safe b = [b] :=
      quoteChar_of_kept (by simp [isUnreserved_of_isHexDigit hb])
    simp [hp, hqa, hqb, ih]
  | case3 a b s h ih => rw [List.flatMap_cons, ih]
  | case4 c s hc ih => rw [List.flatMap_cons, ih]

lemma kept_quote (s : List Char) : Kept safe (quote safe s) := by
  intro c hc
  rw [quote_eq_flatMap hpercent] at hc
  obtain ⟨d, -, hd⟩ := List.mem_flatMap.mp hc
  rw [quoteChar] at hd
  split at hd
  · next hsafe => exact List.mem_singleton.mp hd ▸ hsafe
  · rcases mem_percentChar hd with rfl | hhex
    · simp [hpercent]
    · simp [isUnreserved_of_isHexDigit hhex]

lemma quote_of_kept (h : Kept safe s) : quote safe s = s := by
  rw [quote_eq_flatMap hpercent]
  induction s with
  | nil => rfl
  | cons c s ih =>
    have hc : quoteChar safe c = [c] := quoteChar_of_kept (h c List.mem_cons_self)
    have hs := ih fun d hd => h d (List.mem_cons_of_mem _ hd)
    rw [List.flatMap_cons, hc, hs, List.singleton_append]

lemma quote_eq_self_of_notMem (h : '%' ∉ quote safe s) : quote safe s = s := by
  apply quote_of_kept hpercent
  intro c hc
  by_contra hunsafe
  obtain ⟨a, b, t, ht⟩ := percentChar_eq_cons c
  apply h
  rw [quote_eq_flatMap hpercent]
  apply List.mem_flatMap.mpr
  refine ⟨c, hc, ?_⟩
  rw [quoteChar, if_neg hunsafe, ht]
  exact List.mem_cons_self

lemma quote_eq_nil_iff : quote safe s = [] ↔ s = [] := by
  constructor
  · intro h
    have hself := quote_eq_self_of_notMem hpercent (s := s) (by simp [h])
    rw [← hself, h]
  · rintro rfl
    rfl

end Quoting

section Separators

variable {safe : Char → Bool} {sep : Char}

lemma notMem_quoteChar (hne : sep ≠ '%') (hhex : isHexDigit sep = false) {c : Char}
    (hc : c ≠ sep) : sep ∉ quoteChar safe c := by
  rw [quoteChar]
  split
  · simpa using Ne.symm hc
  · intro h
    rcases mem_percentChar h with h | h
    · exact hne h
    · exact nomatch h.symm.trans hhex

variable (hpercent : safe '%' = true) (hsep : quoteChar safe sep = [sep]) (hne : sep ≠ '%')
  (hhex : isHexDigit sep = false)

include hpercent hsep hne hhex

lemma splitOn_quote (s : List Char) :
    Text.splitOn sep (quote safe s) = (Text.splitOn sep s).map (quote safe) := by
  have hquote : quote safe = fun s => s.flatMap (quoteChar safe) :=
    funext (quote_eq_flatMap hpercent)
  rw [hquote]
  exact Text.splitOn_flatMap hsep (fun _ hc => notMem_quoteChar hne hhex hc) s

lemma splitFirst_quote (s : List Char) :
    Text.splitFirst sep (quote safe s) =
      (quote safe (Text.splitFirst sep s).1, (Text.splitFirst sep s).2.map (quote safe)) := by
  have hquote : quote safe = fun s => s.flatMap (quoteChar safe) :=
    funext (quote_eq_flatMap hpercent)
  rw [hquote]
  exact Text.splitFirst_flatMap hsep (fun _ hc => notMem_quoteChar hne hhex hc) s

end Separators

section Reading

lemma unquoteBytes_cons {c : Char} (h : c ≠ '%') (s : List Char) :
    unquoteBytes (c :: s) = String.utf8EncodeChar c ++ unquoteBytes s := by
  rw [unquoteBytes]
  rintro a b t rfl
  exact absurd rfl h

lemma unquoteBytes_percentByte (b : UInt8) (s : List Char) :
    unquoteBytes (percentByte b ++ s) = b :: unquoteBytes s := by
  have hlt : b.toNat < 256 := b.toNat_lt
  obtain ⟨hhi, vhi⟩ := hexDigit_spec (b.toNat / 16) (by omega)
  obtain ⟨hlo, vlo⟩ := hexDigit_spec (b.toNat % 16) (by omega)
  have hb : UInt8.ofNat (b.toNat / 16 * 16 + b.toNat % 16) = b := by
    rw [Nat.div_add_mod']
    exact UInt8.ofNat_toNat
  simp only [percentByte, List.cons_append, List.nil_append, unquoteBytes, hhi, hlo, vhi, vlo,
    Bool.and_self, if_true, hb]

lemma unquoteBytes_flatMap_percentByte (bs : List UInt8) (s : List Char) :
    unquoteBytes (bs.flatMap percentByte ++ s) = bs ++ unquoteBytes s := by
  induction bs with
  | nil => rfl
  | cons b bs ih =>
    rw [List.flatMap_cons, List.append_assoc, unquoteBytes_percentByte, ih, List.cons_append]

lemma unquoteBytes_percentChar (c : Char) (s : List Char) :
    unquoteBytes (percentChar c ++ s) = String.utf8EncodeChar c ++ unquoteBytes s :=
  unquoteBytes_flatMap_percentByte _ s

def digitsFollow : List Char → Bool
  | a :: b :: _ => isHexDigit a && isHexDigit b
  | _ => false

lemma unquoteBytes_percent_cons {s : List Char} (h : digitsFollow s = false) :
    unquoteBytes ('%' :: s) = String.utf8EncodeChar '%' ++ unquoteBytes s := by
  match s with
  | [] => rfl
  | [a] => rfl
  | a :: b :: s =>
    rw [digitsFollow] at h
    rw [unquoteBytes, h]
    simp

/-- The second text spells the first one: some characters, none of which can be part of a percent
sequence, are coded. -/
inductive Spells : List Char → List Char → Prop
  | nil : Spells [] []
  | kept {s t : List Char} (c : Char) : Spells s t → Spells (c :: s) (c :: t)
  | coded {s t : List Char} (c : Char) : c ≠ '%' → isHexDigit c = false → Spells s t →
      Spells (c :: s) (percentChar c ++ t)

lemma digitsFollow_cons_of_not {c : Char} (h : isHexDigit c = false) (s : List Char) :
    digitsFollow (c :: s) = false := by
  cases s <;> simp [digitsFollow, h]

lemma digitsFollow_cons_cons_of_not (c : Char) {d : Char} (h : isHexDigit d = false)
    (s : List Char) : digitsFollow (c :: d :: s) = false := by
  simp [digitsFollow, h]

lemma isHexDigit_percent : isHexDigit '%' = false := by decide

lemma Spells.digitsFollow_eq {s t : List Char} (h : Spells s t) :
    digitsFollow t = digitsFollow s := by
  cases h with
  | nil => rfl
  | coded c _ hhex h =>
    obtain ⟨a, b, u, hu⟩ := percentChar_eq_cons c
    rw [hu, digitsFollow_cons_of_not hhex]
    exact digitsFollow_cons_of_not isHexDigit_percent _
  | kept c h =>
    cases h with
    | nil => rfl
    | kept d h => rfl
    | coded d _ hhex h =>
      obtain ⟨a, b, u, hu⟩ := percentChar_eq_cons d
      rw [hu, digitsFollow_cons_cons_of_not c hhex]
      exact digitsFollow_cons_cons_of_not c isHexDigit_percent _

lemma Spells.tail_of_digits {a b : Char} {s t : List Char} (h : Spells (a :: b :: s) t)
    (ha : isHexDigit a = true) (hb : isHexDigit b = true) : ∃ u, t = a :: b :: u := by
  cases h with
  | coded _ _ hhex _ => exact nomatch ha.symm.trans hhex
  | kept _ h =>
    cases h with
    | coded _ _ hhex _ => exact nomatch hb.symm.trans hhex
    | kept _ _ => exact ⟨_, rfl⟩

lemma ne_percent_of_isHexDigit {c : Char} (h : isHexDigit c = true) : c ≠ '%' := by
  rintro rfl
  cases h

lemma Spells.unquoteBytes_eq {s t : List Char} (h : Spells s t) :
    unquoteBytes t = unquoteBytes s := by
  induction h with
  | nil => rfl
  | coded c hc _ _ ih => rw [unquoteBytes_percentChar, unquoteBytes_cons hc, ih]
  | @kept s t c h ih =>
    by_cases hc : c = '%'
    · subst hc
      cases hdigits : digitsFollow s with
      | false =>
        rw [unquoteBytes_percent_cons hdigits,
          unquoteBytes_percent_cons (h.digitsFollow_eq.trans hdigits), ih]
      | true =>
        -- the two digits stand in both texts, and what follows them reads alike
        match s, hdigits with
        | a :: b :: s, hdigits =>
          obtain ⟨ha, hb⟩ := Bool.and_eq_true_iff.mp hdigits
          obtain ⟨u, rfl⟩ := h.tail_of_digits ha hb
          rw [unquoteBytes_cons (ne_percent_of_isHexDigit ha),
            unquoteBytes_cons (ne_percent_of_isHexDigit hb),
            unquoteBytes_cons (ne_percent_of_isHexDigit ha),
            unquoteBytes_cons (ne_percent_of_isHexDigit hb)] at ih
          have hrest := List.append_cancel_left (List.append_cancel_left ih)
          simp only [unquoteBytes, ha, hb, Bool.and_self, if_true, hrest]
    · rw [unquoteBytes_cons hc, unquoteBytes_cons hc, ih]

end Reading

end HttpTemplate.Url
