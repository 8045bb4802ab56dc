import HttpTemplate.Proofs.Entries
import HttpTemplate.Proofs.Text.Split
import HttpTemplate.Proofs.Text.Utf8
import HttpTemplate.Proofs.Url.Percent
import HttpTemplate.Url.Form

/-! A query is read back as it was written, whatever characters its names and values have, and
merging pairs into it changes the values of their names only. -/

namespace HttpTemplate.Url.Form

open Entries

section Coding

lemma mem_encodeChar {c d : Char} (h : c ∈ encodeChar d) :
    c = '+' ∨ c = '%' ∨ isUnreserved c = true := by
  rw [encodeChar] at h
  split at h
  · exact .inl (List.mem_singleton.mp h)
  · rw [quoteChar] at h
    split at h
    · next hd =>
      obtain rfl := List.mem_singleton.mp h
      exact .inr (.inr (by simpa using hd))
    · rcases mem_percentChar h with hc | hc
      · exact .inr (.inl hc)
      · exact .inr (.inr (isUnreserved_of_isHexDigit hc))

lemma notMem_encode {sep : Char} (hplus : sep ≠ '+') (hpercent : sep ≠ '%')
    (hsep : isUnreserved sep = false) (s : String) : sep ∉ encode s := by
  intro h
  obtain ⟨d, -, hd⟩ := List.mem_flatMap.mp h
  rcases mem_encodeChar hd with hc | hc | hc
  · exact hplus hc
  · exact hpercent hc
  · exact nomatch hc.symm.trans hsep

lemma plusToSpace_append (s t : List Char) :
    plusToSpace (s ++ t) = plusToSpace s ++ plusToSpace t := by
  simp [plusToSpace]

lemma plusToSpace_of_notMem {s : List Char} (h : '+' ∉ s) : plusToSpace s = s := by
  have hmap : s.map (fun c => if c = '+' then ' ' else c) = s.map id := by
    apply List.map_congr_left
    intro c hc
    rw [if_neg]
    · rfl
    · rintro rfl
      exact h hc
  rw [plusToSpace, hmap, List.map_id]

lemma plus_notMem_percentChar (c : Char) : '+' ∉ percentChar c := by
  intro h
  rcases mem_percentChar h with h | h <;> exact absurd h (by decide)

lemma unquoteBytes_encodeChar (c : Char) (s : List Char) :
    unquoteBytes (plusToSpace (encodeChar c ++ s)) =
      String.utf8EncodeChar c ++ unquoteBytes (plusToSpace s) := by
  rw [plusToSpace_append, encodeChar]
  split
  · next h =>
    subst h
    exact unquoteBytes_cons (by decide) _
  · rw [quoteChar]
    split
    · next h =>
      have hplus : c ≠ '+' := by
        rintro rfl
        exact absurd h (by decide)
      have hpercent : c ≠ '%' := by
        rintro rfl
        exact absurd h (by decide)
      rw [plusToSpace_of_notMem (by simpa using Ne.symm hplus)]
      exact unquoteBytes_cons hpercent _
    · rw [plusToSpace_of_notMem (plus_notMem_percentChar c), unquoteBytes_percentChar]

lemma unquoteBytes_encode (s : List Char) :
    unquoteBytes (plusToSpace (s.flatMap encodeChar)) = Text.Utf8.encodeChars s := by
  induction s with
  | nil => rfl
  | cons c s ih =>
    rw [List.flatMap_cons, unquoteBytes_encodeChar, ih]
    rfl

lemma decode_encode (s : String) : decode (encode s) = s := by
  rw [decode, unquote, encode, unquoteBytes_encode, Text.Utf8.decodeLossy_encodeChars,
    String.toList_ofList, String.ofList_toList]

end Coding

section Writing

variable {pairs : Pairs}

lemma readPair_writePair (p : String × String) : readPair (writePair p) = p := by
  have hname : '=' ∉ encode p.1 := notMem_encode (by decide) (by decide) (by decide) p.1
  rw [readPair, writePair, Text.splitFirst_append hname]
  simp only [Option.getD_some, decode_encode]

lemma amp_notMem_writePair (p : String × String) : '&' ∉ writePair p := by
  have hencode : ∀ s, '&' ∉ encode s := notMem_encode (by decide) (by decide) (by decide)
  simp only [writePair, List.mem_append, List.mem_cons, not_or]
  exact ⟨hencode p.1, by decide, hencode p.2⟩

lemma writePair_ne_nil (p : String × String) : writePair p ≠ [] := by
  simp [writePair]

lemma read_write (pairs : Pairs) : read (write pairs) = pairs := by
  by_cases hnil : pairs = []
  · subst hnil
    rfl
  · have hsplit : Text.splitOn '&' (write pairs) = pairs.map writePair := by
      apply Text.splitOn_intercalate
      · intro piece hpiece
        obtain ⟨p, -, rfl⟩ := List.mem_map.mp hpiece
        exact amp_notMem_writePair p
      · simpa using hnil
    have hkeep : (pairs.map writePair).filter (!·.isEmpty) = pairs.map writePair := by
      apply List.filter_eq_self.mpr
      intro piece hpiece
      obtain ⟨p, -, rfl⟩ := List.mem_map.mp hpiece
      simpa using writePair_ne_nil p
    have hself : readPair ∘ writePair = id := funext readPair_writePair
    rw [read, hsplit, hkeep, List.map_map, hself, List.map_id]

lemma kept_encode (s : String) : Kept safeInQuery (encode s) := by
  intro c hc
  obtain ⟨d, -, hd⟩ := List.mem_flatMap.mp hc
  rcases mem_encodeChar hd with rfl | rfl | hc
  · decide
  · decide
  · simp [hc]

lemma kept_writePair (p : String × String) : Kept safeInQuery (writePair p) := by
  apply (kept_encode p.1).append
  intro c hc
  rcases List.mem_cons.mp hc with rfl | hc
  · decide
  · exact kept_encode p.2 c hc

lemma kept_write (pairs : Pairs) : Kept safeInQuery (write pairs) := by
  rw [write]
  induction pairs with
  | nil =>
    intro c hc
    cases hc
  | cons p pairs ih =>
    cases pairs with
    | nil => simpa using kept_writePair p
    | cons q pairs =>
      rw [List.map_cons, List.map_cons, List.intercalate_cons_cons, ← List.map_cons,
        List.append_assoc]
      apply (kept_writePair p).append
      apply Kept.append
      · intro c hc
        obtain rfl := List.mem_singleton.mp hc
        decide
      · exact ih

end Writing

section Merging

variable {old new : Pairs} {k : String}

lemma valuesOf_merge (old new : Pairs) (k : String) :
    valuesOf k (merge old new) =
      ((get? k (group new)).or (get? k (group old))).getD [] := by
  have hnodup : (keys (putAll (group old) (group new))).Nodup :=
    nodup_keys_putAll (nodup_keys_group old) _
  rw [merge, valuesOf_ungroup hnodup, get?_putAll_of_nodup _ (nodup_keys_group new)]

lemma valuesOf_merge_of_mem (h : k ∈ new.map (·.1)) :
    valuesOf k (merge old new) = valuesOf k new := by
  have hvalues : valuesOf k new ≠ [] := fun hnil => valuesOf_eq_nil_iff.mp hnil h
  rw [valuesOf_merge, get?_group, if_neg hvalues]
  rfl

lemma valuesOf_merge_of_notMem (h : k ∉ new.map (·.1)) :
    valuesOf k (merge old new) = valuesOf k old := by
  have hvalues : valuesOf k new = [] := valuesOf_eq_nil_iff.mpr h
  rw [valuesOf_merge, get?_group, if_pos hvalues, get?_group]
  split
  · next hnil => rw [hnil]; rfl
  · rfl

end Merging

section Quoting

variable {safe : Char → Bool} (hpercent : safe '%' = true) (hplus : safe '+' = true)

include hpercent hplus

lemma spells_plusToSpace (s : List Char) :
    Spells (plusToSpace s) (plusToSpace (s.flatMap (quoteChar safe))) := by
  induction s with
  | nil => exact .nil
  | cons c s ih =>
    rw [List.flatMap_cons, plusToSpace_append, quoteChar]
    split
    · exact .kept _ ih
    · next h =>
      simp only [Bool.or_eq_true, not_or, Bool.not_eq_true] at h
      obtain ⟨hunreserved, hsafe⟩ := h
      have hc : c ≠ '+' := by
        rintro rfl
        rw [hplus] at hsafe
        cases hsafe
      have hcp : c ≠ '%' := by
        rintro rfl
        rw [hpercent] at hsafe
        cases hsafe
      have hhex : isHexDigit c = false := by
        rw [Bool.eq_false_iff]
        intro hhex
        rw [isUnreserved_of_isHexDigit hhex] at hunreserved
        cases hunreserved
      have hcons : plusToSpace (c :: s) = c :: plusToSpace s := by
        simp [plusToSpace, hc]
      rw [hcons, plusToSpace_of_notMem (plus_notMem_percentChar c)]
      exact .coded c hcp hhex ih

lemma decode_quote (s : List Char) : decode (quote safe s) = decode s := by
  rw [quote_eq_flatMap hpercent, decode, decode, unquote, unquote,
    (spells_plusToSpace hpercent hplus s).unquoteBytes_eq]

end Quoting

lemma readPair_quote (piece : List Char) : readPair (quote safeInQuery piece) = readPair piece := by
  have hcut : Text.splitFirst '=' (quote safeInQuery piece) =
      (quote safeInQuery (Text.splitFirst '=' piece).1,
        (Text.splitFirst '=' piece).2.map (quote safeInQuery)) :=
    splitFirst_quote (by decide) (by decide) (by decide) (by decide) piece
  have hdecode : ∀ s, decode (quote safeInQuery s) = decode s :=
    decode_quote (by decide) (by decide)
  have hvalue : ∀ value : Option (List Char),
      decode ((value.map (quote safeInQuery)).getD []) = decode (value.getD []) := by
    intro value
    cases value with
    | none => rfl
    | some value => exact hdecode value
  simp only [readPair, hcut, hdecode, hvalue]

lemma read_quote (s : List Char) : read (quote safeInQuery s) = read s := by
  have hsplit : Text.splitOn '&' (quote safeInQuery s) =
      (Text.splitOn '&' s).map (quote safeInQuery) :=
    splitOn_quote (by decide) (by decide) (by decide) (by decide) s
  have hempty : ∀ piece : List Char, (quote safeInQuery piece).isEmpty = piece.isEmpty := by
    intro piece
    rw [Bool.eq_iff_iff, List.isEmpty_iff, List.isEmpty_iff, quote_eq_nil_iff (by decide)]
  have hread : readPair ∘ quote safeInQuery = readPair := funext readPair_quote
  rw [read, hsplit, List.filter_map, List.map_map, hread, read]
  congr 2
  funext piece
  simp [hempty]

end HttpTemplate.Url.Form
