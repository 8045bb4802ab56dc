import HttpTemplate.Proofs.Faults
import HttpTemplate.Proofs.Url.Form
import HttpTemplate.Proofs.Url.Normal
import HttpTemplate.Request

/-! The query of a request in the text of its URL. It reads back as the pairs that were put in,
it stays out of the other parts, and it takes the place of the pairs that the URL had under the same
names. -/

namespace HttpTemplate.Queries

open Entries Faults Url

def pairsIn (text : String) : Form.Pairs :=
  Form.read ((Reference.ofText text.toList).query.getD [])

def names (pairs : Form.Pairs) : List String := pairs.map (·.1)

def SameTarget (r s : Reference) : Prop :=
  r.scheme = s.scheme ∧ r.authority = s.authority ∧ r.path = s.path

instance (r s : Reference) : Decidable (SameTarget r s) :=
  inferInstanceAs (Decidable (_ ∧ _ ∧ _))

section Texts

variable {url result : String} {new : Form.Pairs}

lemma ofText_mergeQuery [Idna] (h : Url.mergeQuery url new = .ok result) :
    ∃ u, Url.parse url.toList = .ok u ∧
      Reference.ofText result.toList =
        { Reference.ofText (settled u).target with
          query := some (Form.write (Form.merge u.pairs new)), fragment := u.fragment } ∧
      (Plain u.scheme (settled u).authority u.path →
        Reference.ofText (settled u).target =
          ⟨u.scheme, (settled u).authority, u.path, none, none⟩) := by
  obtain ⟨u, w, q, hparse, hq, hw, rfl⟩ := mergeQuery_eq_ok h
  have hu := normal_of_parse hparse
  have hkept : Kept safeInQuery q := hq ▸ Form.kept_write _
  have hquery : w.query = some q := by
    rw [hw.query, Option.map_some, quote_of_kept (by decide) hkept]
  have hsettled := hu.eq_settled hw
  have hnormal : Normal w := hw.normal ⟨hu.scheme, hu.scheme_head, hu.endsAuthority⟩
  refine ⟨u, hparse, ?_, fun hplain => ?_⟩
  · rw [text, String.toList_ofList, hnormal.ofText_render hquery (hkept.notMem (by decide)),
      hsettled, hq]
    rfl
  · have hpath : w.path = u.path := by rw [hsettled]; rfl
    have hroot : w.authority ≠ [] → w.path = [] ∨ w.path.head? = some '/' := by
      intro hne
      have hsome : (!w.authority.isEmpty) = true := by simpa using hne
      rw [hpath]
      exact root_of_checkPath (hsome ▸ hw.allowed)
    rw [hsettled] at hnormal hroot
    exact hnormal.ofText_target hroot hplain

lemma pairsIn_mergeQuery [Idna] (h : Url.mergeQuery url new = .ok result) :
    pairsIn result = Form.merge (pairsIn url) new := by
  obtain ⟨u, hparse, htext, -⟩ := ofText_mergeQuery h
  rw [pairsIn, htext, pairs_of_parse hparse]
  exact Form.read_write _

end Texts

section Requests

variable {url result : String} {query : Table} {new : Form.Pairs}

lemma requestUrl_eq_ok [Idna] (hflat : Parts.flatQuery query = .ok new)
    (h : Parts.requestUrl url query = .ok result) :
    new = [] ∧ result = url ∨ new ≠ [] ∧ Url.mergeQuery url new = .ok result := by
  obtain ⟨pairs, hpairs, h⟩ := bind_eq_ok.mp h
  obtain rfl := Except.ok.inj (hpairs.symm.trans hflat)
  split at h
  · next hempty => exact .inl ⟨List.isEmpty_iff.mp hempty, (Except.ok.inj h).symm⟩
  · next hempty => exact .inr ⟨mt List.isEmpty_iff.mpr hempty, mapError_eq_ok.mp h⟩

lemma mergeQuery_of_requestUrl [Idna] (hflat : Parts.flatQuery query = .ok new) (hnew : new ≠ [])
    (h : Parts.requestUrl url query = .ok result) : Url.mergeQuery url new = .ok result :=
  ((requestUrl_eq_ok hflat h).resolve_left fun hnone => hnew hnone.1).2

theorem query_stays_apart [Idna] (hflat : Parts.flatQuery query = .ok new) (hnew : new ≠ [])
    (h : Parts.requestUrl url query = .ok result) :
    (∀ k ∈ names new, valuesOf k (pairsIn result) = valuesOf k new) ∧
      (∃ u, Url.parse url.toList = .ok u ∧
        (Reference.ofText result.toList).fragment = u.fragment ∧
        (Plain u.scheme (settled u).authority u.path →
          SameTarget (.ofText result.toList) (settled u).toReference)) ∧
      ∀ query' new' result', Parts.flatQuery query' = .ok new' → new' ≠ [] →
        Parts.requestUrl url query' = .ok result' →
        SameTarget (.ofText result.toList) (.ofText result'.toList) := by
  have hmerge := mergeQuery_of_requestUrl hflat hnew h
  obtain ⟨u, hparse, htext, hplain⟩ := ofText_mergeQuery hmerge
  refine ⟨fun k hk => ?_, ⟨u, hparse, by rw [htext], fun hp => ?_⟩, ?_⟩
  · rw [pairsIn_mergeQuery hmerge]
    exact Form.valuesOf_merge_of_mem hk
  · rw [htext, hplain hp]
    exact ⟨rfl, rfl, rfl⟩
  · intro query' new' result' hflat' hnew' h'
    obtain ⟨u', hparse', htext', -⟩ :=
      ofText_mergeQuery (mergeQuery_of_requestUrl hflat' hnew' h')
    cases hparse.symm.trans hparse'
    rw [htext, htext']
    exact ⟨rfl, rfl, rfl⟩

def search : Table :=
  [(.str "&=", .str "é#"), (.str "x", .list [.str "1+ ", .null, .str ""])]

def searchPairs : Form.Pairs := [("&=", "é#"), ("x", "1+ "), ("x", "")]

lemma flatQuery_search : Parts.flatQuery search = .ok searchPairs := by
  apply toOption_eq_some.mp
  decide +kernel

section Accented

local instance accented : Idna where
  encode? host := if host = "é.test".toList then some "xn--9ca.test".toList else none
  plain := by
    intro host name h
    split at h
    · obtain rfl := Option.some.inj h
      simp [Url.isDigit]
    · cases h

def accentedBase : String := "http://É.test/p?x=1#f"

def accentedUrl : String := "http://xn--9ca.test/p?x=1%2B+&x=&%26%3D=%C3%A9%23#f"

lemma requestUrl_accented : Parts.requestUrl accentedBase search = .ok accentedUrl := by
  apply toOption_eq_some.mp
  decide +kernel

theorem search_stays_apart :
    Parts.requestUrl accentedBase search = .ok accentedUrl ∧
      (∀ k ∈ names searchPairs, valuesOf k (pairsIn accentedUrl) = valuesOf k searchPairs) ∧
      (∃ u, Url.parse accentedBase.toList = .ok u ∧
        (Reference.ofText accentedUrl.toList).fragment = u.fragment ∧
        SameTarget (.ofText accentedUrl.toList) (settled u).toReference) ∧
      ∀ query' new' result', Parts.flatQuery query' = .ok new' → new' ≠ [] →
        Parts.requestUrl accentedBase query' = .ok result' →
        SameTarget (.ofText accentedUrl.toList) (.ofText result'.toList) := by
  obtain ⟨hvalues, ⟨u, hparse, hfragment, htarget⟩, hother⟩ :=
    query_stays_apart flatQuery_search (by decide) requestUrl_accented
  have hbase : Url.parse accentedBase.toList = .ok
      ⟨"http".toList, [], "xn--9ca.test".toList, none, "/p".toList, some "x=1".toList,
        some ['f']⟩ := by
    apply toOption_eq_some.mp
    decide +kernel
  cases hparse.symm.trans hbase
  exact ⟨requestUrl_accented, hvalues, ⟨_, hbase, hfragment, htarget ⟨nofun, nofun⟩⟩, hother⟩

end Accented

def Displaced [Idna] (url : String) (query : Table) : Prop :=
  ∃ new result u, Parts.flatQuery query = .ok new ∧ new ≠ [] ∧
    Parts.requestUrl url query = .ok result ∧ Url.parse url.toList = .ok u ∧
    ¬ SameTarget (.ofText result.toList) u.toReference

lemma displaced_of_eval [Idna] (new : Form.Pairs) (result : String) (u : Url)
    (hflat : (Parts.flatQuery query).toOption = some new) (hnew : new ≠ [])
    (hresult : (Parts.requestUrl url query).toOption = some result)
    (hparse : (Url.parse url.toList).toOption = some u)
    (htarget : ¬ SameTarget (.ofText result.toList) u.toReference) : Displaced url query :=
  ⟨new, result, u, toOption_eq_some.mp hflat, hnew, toOption_eq_some.mp hresult,
    toOption_eq_some.mp hparse, htarget⟩

open scoped Idna in
theorem target_displaced :
    Displaced "http://1<2/" [(.str "a", .str "b")] ∧
      Displaced "HTTP://h:80/" [(.str "a", .str "b")] := by
  constructor
  · apply displaced_of_eval [("a", "b")] "http://1%3c2/?a=b"
      ⟨"http".toList, [], "1%3C2".toList, none, ['/'], none, none⟩ <;> decide +kernel
  · apply displaced_of_eval [("a", "b")] "http://h/?a=b"
      ⟨"http".toList, [], ['h'], some 80, ['/'], none, none⟩ <;> decide +kernel

theorem query_replaces_names [Idna] (hflat : Parts.flatQuery query = .ok new)
    (h : Parts.requestUrl url query = .ok result) (k : String) :
    valuesOf k (pairsIn result) =
        (if k ∈ names new then valuesOf k new else valuesOf k (pairsIn url)) ∧
      (valuesOf k (pairsIn result) = valuesOf k (pairsIn url) ++ valuesOf k new ↔
        ¬ (k ∈ names (pairsIn url) ∧ k ∈ names new)) := by
  have hvalues : valuesOf k (pairsIn result) =
      if k ∈ names new then valuesOf k new else valuesOf k (pairsIn url) := by
    rcases requestUrl_eq_ok hflat h with ⟨rfl, rfl⟩ | ⟨-, hmerge⟩
    · rfl
    · rw [pairsIn_mergeQuery hmerge]
      split
      · next hk => exact Form.valuesOf_merge_of_mem hk
      · next hk => exact Form.valuesOf_merge_of_notMem hk
  refine ⟨hvalues, ?_⟩
  rw [hvalues]
  by_cases hk : k ∈ names new
  · have hold : valuesOf k (pairsIn url) = [] ↔ k ∉ names (pairsIn url) := valuesOf_eq_nil_iff
    simp [hk, ← hold]
  · have hnone : valuesOf k new = [] := valuesOf_eq_nil_iff.mpr hk
    simp [hk, hnone]

section Names

open scoped Idna

def searchBase : String := "http://h/p?x=1#f"

def searchUrl : String := "http://h/p?x=1%2B+&x=&%26%3D=%C3%A9%23#f"

lemma requestUrl_search : Parts.requestUrl searchBase search = .ok searchUrl := by
  apply toOption_eq_some.mp
  decide +kernel

theorem search_replaces_x :
    valuesOf "x" (pairsIn searchUrl) =
        (if "x" ∈ names searchPairs then valuesOf "x" searchPairs
          else valuesOf "x" (pairsIn searchBase)) ∧
      (valuesOf "x" (pairsIn searchUrl) =
          valuesOf "x" (pairsIn searchBase) ++ valuesOf "x" searchPairs ↔
        ¬ ("x" ∈ names (pairsIn searchBase) ∧ "x" ∈ names searchPairs)) :=
  query_replaces_names flatQuery_search requestUrl_search "x"

theorem shared_name_loses_values :
    ∃ new result, Parts.flatQuery [(.str "k", .str "9")] = .ok new ∧
      Parts.requestUrl "http://h/?k=1" [(.str "k", .str "9")] = .ok result ∧
      valuesOf "k" (pairsIn result) ≠
        valuesOf "k" (pairsIn "http://h/?k=1") ++ valuesOf "k" new := by
  refine ⟨[("k", "9")], "http://h/?k=9", ?_, ?_, ?_⟩
  · apply toOption_eq_some.mp
    decide +kernel
  · apply toOption_eq_some.mp
    decide +kernel
  · decide +kernel

end Names

end Requests

end HttpTemplate.Queries
