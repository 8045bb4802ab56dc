import HttpTemplate.Proofs.Faults
import HttpTemplate.Proofs.Number.Numeral
import HttpTemplate.Proofs.Url.Dots
import HttpTemplate.Proofs.Url.Form
import HttpTemplate.Proofs.Url.Host
import HttpTemplate.Proofs.Url.Reference

/-! A normal URL that is put together and normalized once more keeps its scheme, userinfo, path and
fragment. Its host is settled, and its port goes where it is the default one of the scheme in lower
case. -/

namespace HttpTemplate.Url

open Text Faults Numeral

variable {r : Reference} {u w : Url} {q : List Char}

def portText : Option Int → List Char
  | some n => (decimalInt n).toList
  | none => []

def colonPort : Option Int → List Char
  | some n => ':' :: (decimalInt n).toList
  | none => []

lemma authority_eq (u : Url) :
    u.authority =
      (if u.userinfo.isEmpty then [] else u.userinfo ++ ['@']) ++
        (shownHost u.host ++ colonPort u.port) := by
  rw [← List.append_assoc]
  rfl

lemma shownHost_eq_nil_iff {host : List Char} : shownHost host = [] ↔ host = [] := by
  rw [shownHost]
  split
  · next h =>
    cases host with
    | nil => cases h
    | cons c host => simp
  · rfl

lemma authority_eq_nil_iff :
    u.authority = [] ↔ u.userinfo = [] ∧ u.host = [] ∧ u.port = none := by
  have hport : colonPort u.port = [] ↔ u.port = none := by cases u.port <;> simp [colonPort]
  rw [authority_eq, List.append_eq_nil_iff, List.append_eq_nil_iff, shownHost_eq_nil_iff, hport]
  by_cases hu : u.userinfo = [] <;> simp [hu]

structure Normalizes [Idna] (r : Reference) (u : Url) : Prop where
  scheme : u.scheme = lowerAscii r.scheme
  userinfo : u.userinfo = quote safeInUserinfo (Authority.ofText r.authority).userinfo
  host : normalHost (Authority.ofText r.authority).host = .ok u.host
  port : normalPort r.scheme (Authority.ofText r.authority).port = .ok u.port
  allowed : checkPath (!r.scheme.isEmpty) (!u.authority.isEmpty) r.path = .ok ()
  path : u.path = quote safeInPath
    (if !r.scheme.isEmpty || !u.authority.isEmpty then withoutDots r.path else r.path)
  query : u.query = r.query.map (quote safeInQuery)
  fragment : u.fragment = r.fragment.map (quote safeInFragment)

lemma normalizes_of_ofReference [Idna] (h : ofReference r = .ok u) : Normalizes r u := by
  obtain ⟨host, hhost, h⟩ := bind_eq_ok.mp h
  obtain ⟨port, hport, h⟩ := bind_eq_ok.mp h
  obtain ⟨⟨⟩, hallowed, h⟩ := bind_eq_ok.mp h
  obtain rfl := Except.ok.inj h
  have hauthority : ∀ u : Url,
      (!u.userinfo.isEmpty || !u.host.isEmpty || u.port.isSome) = !u.authority.isEmpty := by
    intro u
    rw [Bool.eq_iff_iff]
    simp [authority_eq_nil_iff, Option.isSome_iff_ne_none]
    tauto
  refine ⟨rfl, rfl, hhost, hport, ?_, ?_, rfl, rfl⟩
  · rw [← hauthority]
    exact hallowed
  · rw [← hauthority]

section Authorities

lemma mem_cutHost {s : List Char} {c : Char} (h : c ∈ (cutHost s).1) : c ∈ s := by
  have hplain : c ∈ s.takeWhile (· != ':') → c ∈ s := fun hc => (List.takeWhile_sublist _).subset hc
  rw [cutHost.eq_def] at h
  split at h
  · next t =>
    rcases splitLast_cases ']' ('[' :: t) with ⟨-, hcut⟩ | ⟨p, rest, htext, -, hcut⟩
    · rw [hcut] at h
      exact hplain h
    · rw [hcut] at h
      rw [htext]
      have hc : c ∈ p ++ [']'] := h
      rw [← List.singleton_append, ← List.append_assoc]
      exact List.mem_append_left _ hc
  · exact hplain h

lemma host_ofText (s : List Char) :
    '@' ∉ (Authority.ofText s).host ∧ ∀ c ∈ (Authority.ofText s).host, c ∈ s := by
  have hhost : (Authority.ofText s).host = (cutHost (splitLast '@' s).2).1 := rfl
  rw [hhost]
  rcases splitLast_cases '@' s with ⟨hat, hcut⟩ | ⟨p, rest, rfl, hat, hcut⟩
  · rw [hcut]
    exact ⟨fun h => hat (mem_cutHost h), fun c hc => mem_cutHost hc⟩
  · rw [hcut]
    exact ⟨fun h => hat (mem_cutHost h), fun c hc =>
      List.mem_append_right _ (List.mem_cons_of_mem _ (mem_cutHost hc))⟩

lemma mem_colonPort {port : Option Int} {c : Char} (h : c ∈ colonPort port) :
    c = ':' ∨ c = '-' ∨ c.isDigit = true := by
  cases port with
  | none => cases h
  | some n =>
    rcases List.mem_cons.mp h with rfl | h
    · exact .inl rfl
    · exact .inr (mem_decimalInt h)

lemma notMem_colonPort {c : Char} (hcolon : c ≠ ':') (hminus : c ≠ '-') (hdigit : c.isDigit = false)
    (port : Option Int) : c ∉ colonPort port := by
  intro h
  rcases mem_colonPort h with h | h | h
  · exact hcolon h
  · exact hminus h
  · exact nomatch h.symm.trans hdigit

lemma authority_ofText (hhost : HostForm u.host) :
    Authority.ofText u.authority = ⟨u.userinfo, shownHost u.host, portText u.port⟩ := by
  have hat : '@' ∉ shownHost u.host ++ colonPort u.port := by
    rw [List.mem_append, not_or]
    exact ⟨at_notMem_shownHost hhost, notMem_colonPort (by decide) (by decide) (by decide) _⟩
  have hcut : (splitLast '@' u.authority).1.getD [] = u.userinfo ∧
      (splitLast '@' u.authority).2 = shownHost u.host ++ colonPort u.port := by
    rw [authority_eq]
    by_cases hu : u.userinfo = []
    · simp [hu, splitLast_of_notMem hat]
    · simp [hu, splitLast_append hat]
  have hport : colonPort u.port = [] ∨ (colonPort u.port).head? = some ':' := by
    cases u.port <;> simp [colonPort]
  have hafter : afterColon (colonPort u.port) = portText u.port := by cases u.port <;> rfl
  have hbracket : ']' ∉ colonPort u.port :=
    notMem_colonPort (by decide) (by decide) (by decide) _
  simp only [Authority.ofText, hcut, cutHost_shownHost hhost hport hbracket, hafter]

lemma endsAuthority_of_mem_authority (huserinfo : Kept safeInUserinfo u.userinfo)
    (hhost : HostForm u.host) {c : Char} (hc : c ∈ u.authority) : endsAuthority c = false := by
  rw [authority_eq] at hc
  rcases List.mem_append.mp hc with hc | hc
  · split at hc
    · cases hc
    · rcases List.mem_append.mp hc with hc | hc
      · exact endsAuthority_of_mem (huserinfo.notMem (by decide)) (huserinfo.notMem (by decide))
          (huserinfo.notMem (by decide)) hc
      · obtain rfl := List.mem_singleton.mp hc
        decide
  · rcases List.mem_append.mp hc with hc | hc
    · exact endsAuthority_of_mem_shownHost hhost hc
    · exact endsAuthority_of_mem (notMem_colonPort (by decide) (by decide) (by decide) _)
        (notMem_colonPort (by decide) (by decide) (by decide) _)
        (notMem_colonPort (by decide) (by decide) (by decide) _) hc

end Authorities

/-- A URL in normal form, but for the port: it may be the default one of a scheme that was not in
lower case. -/
structure Normal (u : Url) : Prop where
  scheme : ∀ c ∈ u.scheme, isSchemeChar c = true
  scheme_head : u.scheme.head?.all isAlpha = true
  scheme_lower : lowerAscii u.scheme = u.scheme
  userinfo : Kept safeInUserinfo u.userinfo
  host : HostForm u.host
  path : Kept safeInPath u.path
  dots : u.scheme ≠ [] ∨ u.authority ≠ [] → DotFree u.path
  fragment : ∀ f ∈ u.fragment, Kept safeInFragment f

lemma Normalizes.normal [Idna] (h : Normalizes r u) (hr : WellCut r) : Normal u where
  scheme c hc := by
    rw [h.scheme] at hc
    obtain ⟨d, hd, rfl⟩ := List.mem_map.mp hc
    exact isSchemeChar_toLower (hr.scheme d hd)
  scheme_head := by
    rw [h.scheme, lowerAscii, List.head?_map]
    cases hfirst : r.scheme.head? with
    | none => rfl
    | some c => simpa [hfirst, isAlpha_toLower] using hr.scheme_head
  scheme_lower := by rw [h.scheme, lowerAscii_lowerAscii]
  userinfo := h.userinfo ▸ kept_quote (by decide) _
  host := by
    obtain ⟨hat, hmem⟩ := host_ofText r.authority
    exact hostForm_of_normalHost hat (fun c hc => hr.authority c (hmem c hc)) h.host
  path := h.path ▸ kept_quote (by decide) _
  dots hne := by
    have hresolved : (!r.scheme.isEmpty || !u.authority.isEmpty) = true := by
      simpa [h.scheme, lowerAscii] using hne
    rw [h.path, hresolved]
    exact (dotFree_withoutDots _).quote
  fragment f hf := by
    rw [h.fragment] at hf
    obtain ⟨g, -, rfl⟩ := Option.map_eq_some_iff.mp hf
    exact kept_quote (by decide) _

def settledPort (scheme : List Char) (port : Option Int) : Option Int :=
  if port = defaultPort? scheme then none else port

def settled (u : Url) : Url :=
  { u with host := settledHost u.host, port := settledPort u.scheme u.port }

lemma normalPort_portText {scheme : List Char} {port p : Option Int}
    (h : normalPort scheme (portText port) = .ok p) : p = settledPort scheme port := by
  cases port with
  | none =>
    obtain rfl := Except.ok.inj h
    simp [settledPort]
  | some n =>
    have hne : (decimalInt n).toList.isEmpty = false := by
      simpa using decimalInt_ne_nil n
    rw [normalPort, portText, hne, readInt_decimalInt] at h
    by_cases hlong : maxDigits < (Nat.toDigits 10 n.natAbs).length
    · simp [hlong] at h
    · simp only [hlong, if_false, Bool.false_eq_true, Except.ok.injEq] at h
      rw [← h, settledPort]
      simp [eq_comm]

lemma authority_settled_of_nil (h : u.authority = []) : (settled u).authority = [] := by
  obtain ⟨hinfo, hhost, hport⟩ := authority_eq_nil_iff.mp h
  apply authority_eq_nil_iff.mpr
  refine ⟨hinfo, ?_, ?_⟩
  · rw [settled, hhost]
    rfl
  · rw [settled, hport, settledPort, ite_self]

theorem Normal.eq_settled [Idna] (hu : Normal u)
    (hw : Normalizes { u.toReference with query := some q } w) :
    w = { settled u with query := some (quote safeInQuery q) } := by
  have hparts := authority_ofText hu.host
  have hscheme : w.scheme = u.scheme := hw.scheme.trans hu.scheme_lower
  have huserinfo : w.userinfo = u.userinfo := by
    rw [hw.userinfo]
    change quote safeInUserinfo (Authority.ofText u.authority).userinfo = _
    rw [hparts, quote_of_kept (by decide) hu.userinfo]
  have hhost : w.host = settledHost u.host := by
    have h : normalHost (Authority.ofText u.authority).host = .ok w.host := hw.host
    rw [hparts] at h
    exact normalHost_shownHost hu.host h
  have hport : w.port = settledPort u.scheme u.port := by
    have h : normalPort u.scheme (Authority.ofText u.authority).port = .ok w.port := hw.port
    rw [hparts] at h
    exact normalPort_portText h
  have hauthority : w.authority = (settled u).authority := by
    rw [authority, huserinfo, hhost, hport]
    rfl
  have hpath : w.path = u.path := by
    have h : w.path = quote safeInPath
      (if !u.scheme.isEmpty || !w.authority.isEmpty then withoutDots u.path else u.path) := hw.path
    by_cases hne : u.scheme ≠ [] ∨ u.authority ≠ []
    · rw [withoutDots_of_dotFree (hu.dots hne), ite_self, quote_of_kept (by decide) hu.path] at h
      exact h
    · -- Without scheme and authority there are none the second time, and dots stay.
      obtain ⟨hs, ha⟩ := not_or.mp hne
      rw [not_not.mp hs, hauthority, authority_settled_of_nil (not_not.mp ha)] at h
      exact h.trans (quote_of_kept (by decide) hu.path)
  have hfragment : w.fragment = u.fragment := by
    have h : w.fragment = u.fragment.map (quote safeInFragment) := hw.fragment
    rw [h]
    cases hf : u.fragment with
    | none => rfl
    | some f => rw [Option.map_some, quote_of_kept (by decide) (hu.fragment f hf)]
  have hquery : w.query = some (quote safeInQuery q) := hw.query
  cases w with
  | mk scheme userinfo host port path query fragment =>
    simp only [settled, Url.mk.injEq]
    exact ⟨hscheme, huserinfo, hhost, hport, hpath, hquery, hfragment⟩

section Reading

lemma ofReference_of_parse [Idna] {s : List Char} (h : parse s = .ok u) :
    ofReference (.ofText s) = .ok u := by
  rw [parse] at h
  split at h
  · cases h
  · split at h
    · cases h
    · exact h

lemma ofReference_of_ofComponents [Idna] (h : ofComponents r = .ok u) : ofReference r = .ok u := by
  rw [ofComponents] at h
  split at h
  · cases h
  · exact h

lemma normalizes_of_parse [Idna] {s : List Char} (h : parse s = .ok u) : Normalizes (.ofText s) u :=
  normalizes_of_ofReference (ofReference_of_parse h)

lemma normal_of_parse [Idna] {s : List Char} (h : parse s = .ok u) : Normal u :=
  (normalizes_of_parse h).normal (wellCut_ofText s)

lemma pairs_of_parse [Idna] {s : List Char} (h : parse s = .ok u) :
    u.pairs = Form.read ((Reference.ofText s).query.getD []) := by
  rw [pairs, (normalizes_of_parse h).query]
  cases (Reference.ofText s).query with
  | none => rfl
  | some q => exact Form.read_quote q

end Reading

section Rendering

def target (u : Url) : List Char := front u.scheme u.authority u.path

lemma Normal.unmarked_path (h : Normal u) : Unmarked u.path := by
  intro c hc
  rw [Bool.eq_false_iff]
  intro hend
  rcases Bool.or_eq_true_iff.mp hend with he | he
  · exact h.path.notMem (by decide) (eq_of_beq he ▸ hc)
  · exact h.path.notMem (by decide) (eq_of_beq he ▸ hc)

lemma Normal.endsAuthority (h : Normal u) : ∀ c ∈ u.authority, endsAuthority c = false :=
  fun _ hc => endsAuthority_of_mem_authority h.userinfo h.host hc

lemma Normal.unmarked_target (h : Normal u) : Unmarked u.target :=
  unmarked_front h.scheme h.endsAuthority h.unmarked_path

lemma root_of_checkPath {hasScheme : Bool} {path : List Char}
    (h : checkPath hasScheme true path = .ok ()) : path = [] ∨ path.head? = some '/' := by
  cases path with
  | nil => exact .inl rfl
  | cons c path =>
    right
    by_contra hc
    have hother : (c != '/') = true := by simpa using hc
    simp [checkPath, hother] at h

lemma Normal.ofText_target (h : Normal u)
    (hroot : u.authority ≠ [] → u.path = [] ∨ u.path.head? = some '/')
    (hplain : Plain u.scheme u.authority u.path) :
    Reference.ofText u.target = ⟨u.scheme, u.authority, u.path, none, none⟩ :=
  ofText_front h.scheme h.scheme_head h.endsAuthority h.unmarked_path hroot hplain

lemma Normal.ofText_render (h : Normal u) (hquery : u.query = some q) (hq : '#' ∉ q) :
    Reference.ofText u.render =
      { Reference.ofText u.target with query := some q, fragment := u.fragment } := by
  have hrender : u.render = u.target ++ '?' :: (q ++ fragmentText u.fragment) := by
    rw [render, hquery, target, front]
    cases u.fragment <;> simp [fragmentText]
  rw [hrender, ofText_append h.unmarked_target hq]

end Rendering

lemma mergeQuery_eq_ok [Idna] {url result : String} {new : Form.Pairs}
    (h : mergeQuery url new = .ok result) :
    ∃ u w q, parse url.toList = .ok u ∧ q = Form.write (Form.merge u.pairs new) ∧
      Normalizes { u.toReference with query := some q } w ∧ result = w.text := by
  obtain ⟨u, hu, h⟩ := bind_eq_ok.mp h
  obtain ⟨w, hw, h⟩ := bind_eq_ok.mp h
  exact ⟨u, w, _, hu, rfl, normalizes_of_ofReference (ofReference_of_ofComponents hw),
    (Except.ok.inj h).symm⟩

end HttpTemplate.Url
