import HttpTemplate.Text.Utf8
import Mathlib.Tactic.Lemma

/-! The decoder reads back what the encoder writes. The encoding of a character is followed through
the decoder byte by byte, by the number of its bytes. -/

namespace HttpTemplate.Text.Utf8

lemma lead_of_two_bytes : ∀ k < 32, 2 ≤ k → lead? (0xc0 + k) = some ⟨1, k, 0x80, 0xbf, 0⟩ := by
  decide

lemma lead_of_three_bytes : ∀ k < 16, lead? (0xe0 + k) =
    some ⟨1, k, if k = 0 then 0xa0 else 0x80, if k = 0xd then 0x9f else 0xbf, 1⟩ := by
  decide

lemma lead_of_four_bytes : ∀ k < 5, lead? (0xf0 + k) =
    some ⟨1, k, if k = 0 then 0x90 else 0x80, if k = 4 then 0x8f else 0xbf, 2⟩ := by
  decide

section Steps

variable {n : Nat} {p : Pending}

lemma piecesFrom_ofNat (state : Option Pending) (h : n < 256) (rest : List UInt8) :
    piecesFrom state (UInt8.ofNat n :: rest) =
      (step state n).1 ++ piecesFrom (step state n).2 rest := by
  have hn : (UInt8.ofNat n).toNat = n := by
    simp only [UInt8.toNat_ofNat']
    omega
  rw [piecesFrom, hn]

lemma step_none_of_lead (h : lead? n = some p) (hn : 0x80 ≤ n) : step none n = ([], some p) := by
  simp only [step, start, h]
  rw [if_neg (by omega)]

lemma step_last {seen value low high : Nat} (hlow : low ≤ n) (hhigh : n ≤ high) :
    step (some ⟨seen, value, low, high, 0⟩) n =
      ([.char (Char.ofNat (value * 64 + (n - 0x80)))], none) := by
  simp [step, Pending.step, hlow, hhigh]

lemma step_more {seen value low high more : Nat} (hlow : low ≤ n) (hhigh : n ≤ high) :
    step (some ⟨seen, value, low, high, more + 1⟩) n =
      ([], some ⟨seen + 1, value * 64 + (n - 0x80), 0x80, 0xbf, more⟩) := by
  simp [step, Pending.step, hlow, hhigh]

end Steps

lemma toNat_valid (c : Char) : c.toNat < 0xd800 ∨ 0xdfff < c.toNat ∧ c.toNat < 0x110000 := c.valid

lemma piecesFrom_encodeChar (c : Char) (rest : List UInt8) :
    piecesFrom none (String.utf8EncodeChar c ++ rest) = .char c :: piecesFrom none rest := by
  have hvalid := toNat_valid c
  have hval : c.val.toNat = c.toNat := rfl
  have hchar : ∀ n, n = c.toNat → Char.ofNat n = c := by
    rintro n rfl
    exact Char.ofNat_toNat c
  simp only [String.utf8EncodeChar, hval]
  split
  · next h =>
    have hstep : step none c.toNat = ([.char c], none) := by
      simp only [step, start, hchar _ rfl]
      rw [if_pos (by omega)]
    rw [List.singleton_append, piecesFrom_ofNat _ (by omega), hstep]
    rfl
  · split
    · next h =>
      have hlead := lead_of_two_bytes (c.toNat / 64 % 32) (by omega) (by omega)
      rw [List.cons_append, List.singleton_append, Nat.add_comm _ 192,
        piecesFrom_ofNat _ (by omega), step_none_of_lead hlead (by omega),
        piecesFrom_ofNat _ (by omega), step_last (by omega) (by omega), hchar _ (by omega)]
      rfl
    · split
      · next h =>
        have hlead := lead_of_three_bytes (c.toNat / 4096 % 16) (by omega)
        rw [List.cons_append, List.cons_append, List.singleton_append, Nat.add_comm _ 224,
          piecesFrom_ofNat _ (by omega), step_none_of_lead hlead (by omega),
          piecesFrom_ofNat _ (by omega), step_more (by split <;> omega) (by split <;> omega),
          piecesFrom_ofNat _ (by omega), step_last (by omega) (by omega), hchar _ (by omega)]
        rfl
      · next h =>
        have hlead := lead_of_four_bytes (c.toNat / 262144 % 8) (by omega)
        rw [List.cons_append, List.cons_append, List.cons_append, List.singleton_append,
          Nat.add_comm _ 240,
          piecesFrom_ofNat _ (by omega), step_none_of_lead hlead (by omega),
          piecesFrom_ofNat _ (by omega), step_more (by split <;> omega) (by split <;> omega),
          piecesFrom_ofNat _ (by omega), step_more (by omega) (by omega),
          piecesFrom_ofNat _ (by omega), step_last (by omega) (by omega), hchar _ (by omega)]
        rfl

lemma pieces_encodeChars (s : List Char) : pieces (encodeChars s) = s.map .char := by
  induction s with
  | nil => rfl
  | cons c s ih =>
    have hcons : encodeChars (c :: s) = String.utf8EncodeChar c ++ encodeChars s := rfl
    rw [hcons, pieces, piecesFrom_encodeChar, ← pieces, ih]
    rfl

lemma decodeLossy_encodeChars (s : List Char) :
    decodeLossy (encodeChars s) = String.ofList s := by
  have hreplaced : (s.map Piece.char).map Piece.replaced = s := by
    rw [List.map_map]
    exact List.map_id s
  rw [decodeLossy, pieces_encodeChars, hreplaced]

lemma charsOrDefect_chars (offset : Nat) (bytes : List UInt8) (s : List Char) :
    charsOrDefect offset bytes (s.map .char) = .ok s := by
  induction s generalizing offset bytes with
  | nil => rfl
  | cons c s ih =>
    rw [List.map_cons, charsOrDefect, ih]
    rfl

lemma decode_encode (s : String) : decode (encode s) = .ok s := by
  rw [decode, encode, pieces_encodeChars, charsOrDefect_chars]
  exact congrArg Except.ok String.ofList_toList

end HttpTemplate.Text.Utf8
