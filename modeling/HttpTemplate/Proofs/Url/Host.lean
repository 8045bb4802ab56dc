import HttpTemplate.Proofs.Text.Split
import HttpTemplate.Proofs.Url.Percent
import HttpTemplate.Url

/-! The host of a normal URL is an address in groups or a name. An address is read back as it was; a
name, if it is read back, with its percent sequences in lower case. -/

namespace HttpTemplate.Url

open Text

section LowerCase

lemma toLower_capital : ∀ n < 26,
    isAlpha (Char.ofNat (0x41 + n)) = true ∧ isAlpha (Char.ofNat (0x41 + n)).toLower = true ∧
      (Char.ofNat (0x41 + n)).toLower.toLower = (Char.ofNat (0x41 + n)).toLower := by
  decide

lemma toLower_cases (c : Char) :
    c.toLower = c ∨
      isAlpha c = true ∧ isAlpha c.toLower = true ∧ c.toLower.toLower = c.toLower := by
  by_cases h : 0x41 ≤ c.toNat ∧ c.toNat < 0x5b
  · obtain ⟨n, hn⟩ := Nat.exists_eq_add_of_le h.1
    obtain rfl : c = Char.ofNat (0x41 + n) := by rw [← hn, Char.ofNat_toNat]
    exact .inr (toLower_capital n (by omega))
  · left
    refine dif_neg ?_
    rintro ⟨hlow, hhigh⟩
    have hlow : 0x41 ≤ c.toNat := hlow
    have hhigh : c.toNat ≤ 0x5a := hhigh
    omega

lemma toLower_toLower (c : Char) : c.toLower.toLower = c.toLower := by
  rcases toLower_cases c with he | ⟨-, -, he⟩
  · rw [he, he]
  · exact he

lemma isAlpha_toLower (c : Char) : isAlpha c.toLower = isAlpha c := by
  rcases toLower_cases c with he | ⟨hc, hlower, -⟩
  · rw [he]
  · rw [hc, hlower]

lemma lowerAscii_of_not_alpha {s : List Char} (h : ∀ c ∈ s, isAlpha c = false) :
    lowerAscii s = s := by
  have hsame : ∀ c ∈ s, c.toLower = c := by
    intro c hc
    refine (toLower_cases c).resolve_right ?_
    rintro ⟨halpha, -⟩
    exact nomatch halpha.symm.trans (h c hc)
  rw [lowerAscii, List.map_congr_left hsame, List.map_id']

lemma isSchemeChar_toLower {c : Char} (h : isSchemeChar c = true) :
    isSchemeChar c.toLower = true := by
  rcases toLower_cases c with he | ⟨-, halpha, -⟩
  · rwa [he]
  · simp [isSchemeChar, halpha]

lemma lowerAscii_lowerAscii (s : List Char) : lowerAscii (lowerAscii s) = lowerAscii s := by
  rw [lowerAscii, lowerAscii, List.map_map]
  exact List.map_congr_left fun c _ => toLower_toLower c

lemma Kept.lowerAscii {safe : Char → Bool} {s : List Char} (h : Kept safe s) :
    Kept safe (lowerAscii s) := by
  intro c hc
  obtain ⟨d, hd, rfl⟩ := List.mem_map.mp hc
  rcases toLower_cases d with he | ⟨-, halpha, -⟩
  · rw [he]
    exact h d hd
  · simp [isUnreserved, halpha]

end LowerCase

section Octets

def isOctetsChar (c : Char) : Bool := isDigit c || c == '.'

lemma isUnreserved_of_isOctetsChar {c : Char} (h : isOctetsChar c = true) :
    isUnreserved c = true := by
  rcases Bool.or_eq_true_iff.mp h with h | h
  · simp [isUnreserved, h]
  · simp [isUnreserved, eq_of_beq h]

lemma not_alpha_of_isOctetsChar {c : Char} (h : isOctetsChar c = true) : isAlpha c = false := by
  rcases Bool.or_eq_true_iff.mp h with h | h
  · simp only [isDigit, Bool.and_eq_true, decide_eq_true_eq] at h
    have hhigh : c.toNat ≤ 57 := h.2
    simp only [isAlpha, Bool.or_eq_false_iff, Bool.and_eq_false_iff, decide_eq_false_iff_not]
    constructor <;> left <;> intro hlow
    · have hlow : 97 ≤ c.toNat := hlow
      omega
    · have hlow : 65 ≤ c.toNat := hlow
      omega
  · obtain rfl := eq_of_beq h
    decide

lemma isOctetsChar_of_looksLikeIPv4 {s : List Char} (h : looksLikeIPv4 s = true) :
    ∀ c ∈ s, isOctetsChar c = true := by
  intro c hc
  have hpiece : c = '.' ∨ ∃ row ∈ splitOn '.' s, c ∈ row := mem_splitOn_of_mem hc
  rcases hpiece with rfl | ⟨row, hrow, hc⟩
  · decide
  · simp only [looksLikeIPv4, Bool.and_eq_true, List.all_eq_true] at h
    simp [isOctetsChar, (h.2 row hrow).2 c hc]

lemma not_alpha_of_looksLikeIPv4 {s : List Char} (h : looksLikeIPv4 s = true) :
    ∀ c ∈ s, isAlpha c = false := fun c hc =>
  not_alpha_of_isOctetsChar (isOctetsChar_of_looksLikeIPv4 h c hc)

end Octets

section Groups

lemma mem_of_withoutZone {s address : List Char} (h : withoutZone? s = some address) :
    ∀ c ∈ address, c ∈ s := by
  intro c hc
  rcases splitFirst_cases '%' s with ⟨-, hcut⟩ | ⟨p, t, rfl, -, hcut⟩
  · simp only [withoutZone?, hcut, Option.some.injEq] at h
    exact h ▸ hc
  · simp only [withoutZone?, hcut] at h
    split at h
    · cases h
    · obtain rfl := Option.some.inj h
      exact List.mem_append_left _ hc

lemma groups_of_notMem {s : List Char} {groups : List (List Char)} (hcolon : ':' ∉ s)
    (h : groups? s = some groups) : groups = [s] ∨ groups = [['0'], ['0']] := by
  simp only [groups?, splitOn_of_notMem hcolon, List.getLast?_singleton,
    List.dropLast_singleton, List.nil_append] at h
  split at h
  · split at h
    · exact .inr (Option.some.inj h).symm
    · cases h
  · exact .inl (Option.some.inj h).symm

lemma colon_mem_of_isIPv6 {s : List Char} (h : isIPv6 s = true) : ':' ∈ s := by
  by_contra hnot
  obtain ⟨parts, hparts, -⟩ := (Option.any_eq_true _ _).mp h
  obtain ⟨groups, hgroups, hwritten⟩ := Option.bind_eq_some_iff.mp hparts
  obtain ⟨address, haddress, hgroups⟩ := Option.bind_eq_some_iff.mp hgroups
  have hcolon : ':' ∉ address := mt (mem_of_withoutZone haddress ':') hnot
  -- One group or two are neither eight nor have a gap among them.
  rcases groups_of_notMem hcolon hgroups with rfl | rfl
  · simp [written?, gaps] at hwritten
  · simp [written?, gaps] at hwritten

end Groups

inductive HostForm (host : List Char) : Prop
  | groups : isIPv6 host = true → '@' ∉ host → (∀ c ∈ host, endsAuthority c = false) →
      HostForm host
  | name : Kept safeInHost host → HostForm host

def shownHost (host : List Char) : List Char :=
  if host.contains ':' then '[' :: (host ++ [']']) else host

def settledHost (host : List Char) : List Char :=
  if host.contains ':' then host else lowerAscii host

section Forms

variable {text host : List Char}

lemma kept_of_looksLikeIPv4 (h : looksLikeIPv4 host = true) : Kept safeInHost host := by
  intro c hc
  simp [isUnreserved_of_isOctetsChar (isOctetsChar_of_looksLikeIPv4 h c hc)]

lemma kept_encoded [Idna] {name : List Char} (h : Idna.encode? host = some name) :
    Kept safeInHost name := by
  intro c hc
  rcases Idna.plain host name h c hc with ⟨hlow, hhigh⟩ | hdigit | rfl | rfl
  · simp [isUnreserved, isAlpha, hlow, hhigh]
  · simp [isUnreserved, hdigit]
  · decide
  · decide

lemma hostForm_of_normalHost [Idna] (hat : '@' ∉ text) (hend : ∀ c ∈ text, endsAuthority c = false)
    (h : normalHost text = .ok host) : HostForm host := by
  rw [normalHost] at h
  split at h
  · next hlooks =>
    split at h
    · obtain rfl := Except.ok.inj h
      exact .name (kept_of_looksLikeIPv4 hlooks)
    · cases h
  · split at h
    · dsimp only at h
      split at h
      · next haddress =>
        obtain rfl := Except.ok.inj h
        have hmem : ∀ c ∈ (text.drop 1).dropLast, c ∈ text := fun c hc =>
          List.mem_of_mem_drop ((List.dropLast_sublist _).subset hc)
        exact .groups haddress (fun hc => hat (hmem _ hc)) fun c hc => hend c (hmem c hc)
      · cases h
    · split at h
      · obtain rfl := Except.ok.inj h
        exact .name (kept_quote (by decide) _)
      · split at h
        · next hname =>
          obtain rfl := Except.ok.inj h
          exact .name (kept_encoded hname)
        · cases h

lemma isAscii_of_kept (h : Kept safeInHost host) : host.all (·.toNat < 0x80) = true := by
  rw [List.all_eq_true]
  intro c hc
  rw [decide_eq_true_eq]
  rcases Bool.or_eq_true_iff.mp (h c hc) with hc | hc
  · simp only [isUnreserved, isAlpha, isDigit, Bool.or_eq_true, Bool.and_eq_true,
      decide_eq_true_eq, beq_iff_eq] at hc
    rcases hc with (((((⟨-, hle⟩ | ⟨-, hle⟩) | ⟨-, hle⟩) | rfl) | rfl) | rfl) | rfl
    · exact Nat.lt_of_le_of_lt hle (by decide)
    · exact Nat.lt_of_le_of_lt hle (by decide)
    · exact Nat.lt_of_le_of_lt hle (by decide)
    all_goals decide
  · have hlisted : ∀ s : List Char, s.all (·.toNat < 0x80) = true → s.contains c = true →
        c.toNat < 0x80 := by
      intro s hs hmem
      exact of_decide_eq_true (List.all_eq_true.mp hs c (List.contains_iff_mem.mp hmem))
    exact hlisted _ (by decide) hc

lemma normalHost_brackets [Idna] (h : isIPv6 host = true) :
    normalHost ('[' :: (host ++ [']'])) = .ok host := by
  have hlooks : looksLikeIPv4 ('[' :: (host ++ [']'])) = false := by
    rw [Bool.eq_false_iff]
    intro hlooks
    exact absurd (isOctetsChar_of_looksLikeIPv4 hlooks '[' List.mem_cons_self) (by decide)
  have hlast : ('[' :: (host ++ [']'])).getLast? = some ']' := by
    rw [← List.cons_append, List.getLast?_concat]
  have hinner : (('[' :: (host ++ [']'])).drop 1).dropLast = host := by simp
  rw [normalHost, hlooks, hlast]
  simp only [List.head?_cons, hinner, h, and_self, if_true, Bool.false_eq_true, if_false]

lemma normalHost_of_kept [Idna] {settled : List Char} (hkept : Kept safeInHost host)
    (h : normalHost host = .ok settled) : settled = lowerAscii host := by
  rw [normalHost] at h
  split at h
  · next hlooks =>
    split at h
    · rw [lowerAscii_of_not_alpha (not_alpha_of_looksLikeIPv4 hlooks)]
      exact (Except.ok.inj h).symm
    · cases h
  · have hhead : ¬ (host.head? = some '[' ∧ host.getLast? = some ']') := by
      rintro ⟨hhead, -⟩
      exact hkept.notMem (by decide) (List.mem_of_head? hhead)
    rw [if_neg hhead, if_pos (isAscii_of_kept hkept),
      quote_of_kept (by decide) hkept.lowerAscii] at h
    exact (Except.ok.inj h).symm

/-- A shown host need not be read back: a name may have been encoded that looks like an address and
is none. -/
lemma normalHost_shownHost [Idna] {settled : List Char} (hform : HostForm host)
    (h : normalHost (shownHost host) = .ok settled) : settled = settledHost host := by
  cases hform with
  | groups haddress _ _ =>
    have hcolon : host.contains ':' = true := by simpa using colon_mem_of_isIPv6 haddress
    rw [shownHost, hcolon, if_pos rfl, normalHost_brackets haddress] at h
    rw [settledHost, hcolon, if_pos rfl]
    exact (Except.ok.inj h).symm
  | name hkept =>
    have hcolon : ¬ host.contains ':' = true := by simpa using hkept.notMem (by decide)
    rw [shownHost, if_neg hcolon] at h
    rw [settledHost, if_neg hcolon]
    exact normalHost_of_kept hkept h

def marks : List Char := ['/', '?', '#', '@', ':', '[']

lemma not_of_mem_marks {p : Char → Bool} (h : marks.all (!p ·) = true) {c : Char}
    (hc : c ∈ marks) : p c = false := by
  simpa using List.all_eq_true.mp h c hc

lemma endsAuthority_of_mem {s : List Char} (hslash : '/' ∉ s) (hquestion : '?' ∉ s)
    (hhash : '#' ∉ s) {c : Char} (hc : c ∈ s) : endsAuthority c = false := by
  rw [Bool.eq_false_iff]
  intro hend
  simp only [endsAuthority, Bool.or_eq_true, beq_iff_eq] at hend
  rcases hend with (rfl | rfl) | rfl
  · exact hslash hc
  · exact hquestion hc
  · exact hhash hc

lemma HostForm.shown_cases (h : HostForm host) :
    (shownHost host = '[' :: (host ++ [']']) ∧ '@' ∉ host ∧ ∀ c ∈ host, endsAuthority c = false) ∨
      (shownHost host = host ∧ ∀ c ∈ marks, c ∉ host) := by
  cases h with
  | groups haddress hat hend =>
    have hcolon : host.contains ':' = true := by simpa using colon_mem_of_isIPv6 haddress
    exact .inl ⟨by rw [shownHost, hcolon]; rfl, hat, hend⟩
  | name hkept =>
    have hmarks : ∀ c ∈ marks, c ∉ host := by
      intro c hc
      have hother : (isUnreserved c || safeInHost c) = false :=
        not_of_mem_marks (p := fun c => isUnreserved c || safeInHost c) (by decide) hc
      exact hkept.notMem hother
    have hcolon : host.contains ':' = false := by simpa using hmarks ':' (by decide)
    exact .inr ⟨by rw [shownHost, hcolon]; rfl, hmarks⟩

lemma at_notMem_shownHost (h : HostForm host) : '@' ∉ shownHost host := by
  rcases h.shown_cases with ⟨hshown, hat, -⟩ | ⟨hshown, hmarks⟩
  · simpa [hshown] using hat
  · rw [hshown]
    exact hmarks '@' (by decide)

lemma endsAuthority_of_mem_shownHost (h : HostForm host) {c : Char} (hc : c ∈ shownHost host) :
    endsAuthority c = false := by
  rcases h.shown_cases with ⟨hshown, -, hend⟩ | ⟨hshown, hmarks⟩
  · simp only [hshown, List.mem_cons, List.mem_append, List.not_mem_nil, or_false] at hc
    rcases hc with rfl | hc | rfl
    · decide
    · exact hend c hc
    · decide
  · rw [hshown] at hc
    exact endsAuthority_of_mem (hmarks _ (by decide)) (hmarks _ (by decide))
      (hmarks _ (by decide)) hc

lemma cutHost_of_not_bracket {s : List Char} (h : s.head? ≠ some '[') :
    cutHost s = (s.takeWhile (· != ':'), s.dropWhile (· != ':')) := by
  rw [cutHost.eq_def]
  split
  · exact absurd rfl h
  · rfl

lemma cutHost_shownHost (h : HostForm host) {rest : List Char}
    (hrest : rest = [] ∨ rest.head? = some ':') (hbracket : ']' ∉ rest) :
    cutHost (shownHost host ++ rest) = (shownHost host, rest) := by
  rcases h.shown_cases with ⟨hshown, -, -⟩ | ⟨hshown, hmarks⟩
  · have hcut : splitLast ']' ('[' :: (host ++ ']' :: rest)) = (some ('[' :: host), rest) := by
      rw [← List.cons_append, splitLast_append hbracket]
    have htext : shownHost host ++ rest = '[' :: (host ++ ']' :: rest) := by simp [hshown]
    rw [htext, cutHost, hcut, hshown]
    rfl
  · have hhost : ∀ c ∈ host, (c != ':') = true := by
      intro c hc
      have hne : c ≠ ':' := fun he => hmarks ':' (by decide) (he ▸ hc)
      simpa using hne
    have hhead : (host ++ rest).head? ≠ some '[' := by
      cases host with
      | nil => rcases hrest with rfl | hrest <;> simp_all
      | cons c host =>
        intro he
        exact hmarks '[' (by decide) (Option.some.inj he ▸ List.mem_cons_self)
    rw [hshown, cutHost_of_not_bracket hhead]
    rcases hrest with rfl | hrest
    · rw [List.append_nil, takeWhile_of_forall hhost, dropWhile_of_forall hhost]
    · cases rest with
      | nil => cases hrest
      | cons c rest =>
        obtain rfl := Option.some.inj hrest
        rw [takeWhile_append_cons (p := (· != ':')) (by decide),
          dropWhile_append_cons (p := (· != ':')) (by decide), takeWhile_of_forall hhost,
          dropWhile_of_forall hhost, List.nil_append]

end Forms

end HttpTemplate.Url
