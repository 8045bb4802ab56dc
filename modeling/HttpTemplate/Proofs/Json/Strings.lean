import HttpTemplate.Json.Read
import HttpTemplate.Json.Write
import Mathlib.Tactic.Lemma

/-! JSON strings read back. The escape of each character is followed through the reader: plain
characters and short escapes, code units, and pairs of surrogates. -/

namespace HttpTemplate.Json

section CodeUnits

lemma hexValue_digitChar : ∀ d < 16, hexValue? (Nat.digitChar d) = some d := by
  decide

lemma hex_four (n : Nat) :
    Text.hex 4 n = [Nat.digitChar (n / 16 / 16 / 16 % 16), Nat.digitChar (n / 16 / 16 % 16),
      Nat.digitChar (n / 16 % 16), Nat.digitChar (n % 16)] := rfl

lemma codeUnit_hex {n : Nat} (hn : n < 0x10000) {rest : List Char} (hrest : rest ≠ []) :
    codeUnit? (Text.hex 4 n ++ rest) = some (n, rest) := by
  obtain ⟨e, s, rfl⟩ := List.exists_cons_of_ne_nil hrest
  have hvalue : n / 16 / 16 / 16 % 16 * 0x1000 + n / 16 / 16 % 16 * 0x100 + n / 16 % 16 * 0x10 +
      n % 16 = n := by
    omega
  simp only [hex_four, List.cons_append, List.nil_append, codeUnit?,
    hexValue_digitChar _ (Nat.mod_lt _ (by decide)), Option.bind_eq_bind, Option.bind_some, hvalue]
  rfl

lemma unicodeChar_of_codeUnit {n : Nat} {t rest : List Char} (h : codeUnit? t = some (n, rest))
    (hn : isHigh n = false) : unicodeChar ('u' :: t) = .ok (charOf n, rest) := by
  simp only [unicodeChar]
  split
  · next hnone => exact nomatch h.symm.trans hnone
  · next high r hsome =>
    cases h.symm.trans hsome
    simp [hn]
  · next m r _ hsome =>
    cases h.symm.trans hsome
    rfl

lemma unicodeChar_of_pair {high low : Nat} {t r rest : List Char}
    (ht : codeUnit? t = some (high, '\\' :: 'u' :: r)) (hr : codeUnit? r = some (low, rest))
    (hhigh : isHigh high = true) (hlow : isLow low = true) (hlength : 5 ≤ r.length) :
    unicodeChar ('u' :: t) =
      .ok (Char.ofNat (0x10000 + (high - 0xd800) * 0x400 + (low - 0xdc00)), rest) := by
  simp only [unicodeChar, ht, hhigh, hlength, hr, hlow, decide_true, Bool.and_self, if_true]

lemma unicodeChar_escapeCode (c : Char) {rest : List Char} (hrest : rest ≠ []) :
    ∃ t, escapeCode c.toNat ++ rest = '\\' :: 'u' :: t ∧
      unicodeChar ('u' :: t) = .ok (c, rest) := by
  have hvalid : c.toNat < 0xd800 ∨ 0xdfff < c.toNat ∧ c.toNat < 0x110000 := c.valid
  by_cases hsmall : c.toNat < 0x10000
  · have hhigh : isHigh c.toNat = false := by
      simp only [isHigh, Bool.and_eq_false_iff, decide_eq_false_iff_not]
      omega
    have hlow : isLow c.toNat = false := by
      simp only [isLow, Bool.and_eq_false_iff, decide_eq_false_iff_not]
      omega
    have hchar : charOf c.toNat = c := by
      simp [charOf, hhigh, hlow, Char.ofNat_toNat]
    refine ⟨Text.hex 4 c.toNat ++ rest, ?_, ?_⟩
    · simp [escapeCode, unicodeEscape, hsmall]
    · rw [unicodeChar_of_codeUnit (codeUnit_hex hsmall hrest) hhigh, hchar]
  · obtain ⟨high, hh⟩ : ∃ high, high = 0xd800 + (c.toNat - 0x10000) / 0x400 := ⟨_, rfl⟩
    obtain ⟨low, hl⟩ : ∃ low, low = 0xdc00 + (c.toNat - 0x10000) % 0x400 := ⟨_, rfl⟩
    have hchar : Char.ofNat (0x10000 + (high - 0xd800) * 0x400 + (low - 0xdc00)) = c := by
      have hvalue : 0x10000 + (high - 0xd800) * 0x400 + (low - 0xdc00) = c.toNat := by omega
      rw [hvalue, Char.ofNat_toNat]
    have hhigh : isHigh high = true := by
      simp only [isHigh, Bool.and_eq_true, decide_eq_true_eq]
      omega
    have hlow : isLow low = true := by
      simp only [isLow, Bool.and_eq_true, decide_eq_true_eq]
      omega
    have hlength : 5 ≤ (Text.hex 4 low ++ rest).length := by
      have hpos := List.length_pos_iff.mpr hrest
      simp only [hex_four, List.length_append, List.length_cons, List.length_nil]
      omega
    have hfirst := codeUnit_hex (n := high) (by omega)
      (List.cons_ne_nil '\\' ('u' :: (Text.hex 4 low ++ rest)))
    have hsecond := codeUnit_hex (n := low) (by omega) hrest
    refine ⟨_, ?_, (unicodeChar_of_pair hfirst hsecond hhigh hlow hlength).trans (by rw [hchar])⟩
    simp [escapeCode, unicodeEscape, hsmall, ← hh, ← hl]

end CodeUnits

section Bodies

variable {opening rest rest' cs : List Char} {fuel : Nat}

lemma stringBody_plain {c : Char} (hquote : c ≠ '\x22') (hslash : c ≠ '\\')
    (hcontrol : 0x1f < c.toNat) (h : stringBody opening fuel rest = .ok (cs, rest')) :
    stringBody opening (fuel + 1) (c :: rest) = .ok (c :: cs, rest') := by
  rw [stringBody, if_neg (by omega), h]
  · rfl
  · exact hquote
  all_goals
    intros
    exact hslash ‹_›

lemma stringBody_escape {c d : Char} (hu : c ≠ 'u') (hd : plainEscape? c = some d)
    (h : stringBody opening fuel rest = .ok (cs, rest')) :
    stringBody opening (fuel + 1) ('\\' :: c :: rest) = .ok (d :: cs, rest') := by
  simp only [stringBody, hd, h]
  rfl

lemma stringBody_unicode {c : Char} {t : List Char} (hc : unicodeChar ('u' :: t) = .ok (c, rest))
    (h : stringBody opening fuel rest = .ok (cs, rest')) :
    stringBody opening (fuel + 1) ('\\' :: 'u' :: t) = .ok (c :: cs, rest') := by
  simp only [stringBody, hc]
  exact congrArg (· >>= fun p => .ok (c :: p.1, p.2)) h

lemma stringBody_escapeChar (c : Char) (hrest : rest ≠ [])
    (h : stringBody opening fuel rest = .ok (cs, rest')) :
    stringBody opening (fuel + 1) (escapeChar c ++ rest) = .ok (c :: cs, rest') := by
  rw [escapeChar.eq_def]
  split
  iterate 7 exact stringBody_escape (by decide) rfl h
  · next hquote hslash _ _ _ _ _ =>
    split
    · next hplain => exact stringBody_plain hquote hslash (by omega) h
    · obtain ⟨t, ht, hc⟩ := unicodeChar_escapeCode c hrest
      rw [ht]
      exact stringBody_unicode hc h

lemma stringBody_flatMap (opening rest s : List Char) {fuel : Nat} (hfuel : s.length < fuel) :
    stringBody opening fuel (s.flatMap escapeChar ++ '\x22' :: rest) = .ok (s, rest) := by
  induction s generalizing fuel with
  | nil =>
    obtain ⟨n, rfl⟩ := Nat.exists_eq_add_of_lt hfuel
    simp [stringBody]
  | cons c s ih =>
    obtain ⟨n, rfl⟩ := Nat.exists_eq_add_of_lt hfuel
    rw [List.flatMap_cons, List.append_assoc]
    apply stringBody_escapeChar c (by simp)
    exact ih (by simp only [List.length_cons]; omega)

end Bodies

lemma escapeChar_ne_nil (c : Char) : escapeChar c ≠ [] := by
  rw [escapeChar.eq_def]
  split
  all_goals try exact List.cons_ne_nil _ _
  split
  · exact List.cons_ne_nil _ _
  · rw [escapeCode]
    split <;> simp [unicodeEscape]

lemma length_le_length_escaped (s : List Char) : s.length ≤ (s.flatMap escapeChar).length := by
  induction s with
  | nil => exact Nat.le_refl _
  | cons c s ih =>
    have hpos := List.length_pos_iff.mpr (escapeChar_ne_nil c)
    simp only [List.flatMap_cons, List.length_append, List.length_cons]
    omega

lemma string_toList (s : String) :
    (string s).toList = '\x22' :: (s.toList.flatMap escapeChar ++ ['\x22']) :=
  String.toList_ofList

lemma readString_escaped (s : String) (rest : List Char) :
    readString (s.toList.flatMap escapeChar ++ '\x22' :: rest) = .ok (s, rest) := by
  obtain ⟨text, htext⟩ : ∃ text, text = s.toList.flatMap escapeChar ++ '\x22' :: rest := ⟨_, rfl⟩
  have hlength : s.toList.length < text.length + 1 := by
    have hle := length_le_length_escaped s.toList
    rw [htext, List.length_append]
    omega
  have hbody := stringBody_flatMap ('\x22' :: text) rest s.toList hlength
  rw [← htext] at hbody ⊢
  rw [readString, hbody]
  exact congrArg (fun name => Except.ok (name, rest)) String.ofList_toList

end HttpTemplate.Json
