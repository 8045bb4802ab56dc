import HttpTemplate.Proofs.Query.Outline

/-! Flattening a query: its pairs are its fields in the order of the document, with names that say where
each one was, and all they do not tell is what condensing takes away. -/

namespace HttpTemplate.Query

structure Reflects (query : Table) (pairs : List (String × String)) : Prop where
  fields (f : Field) : f ∈ fieldsOf (.map query) ↔ IsField (.map query) f
  once : (fieldsOf (.map query)).Nodup
  ordered : (fieldsOf (.map query)).Pairwise (Before (.map query))
  values : List.Forall₂ (fun f p => (¬ IsContainer f.value → p.2 = f.value.render) ∧
    (IsContainer f.value → Json.write .strict f.value = .ok p.2)) (fieldsOf (.map query)) pairs
  names : List.Forall₂ (fun f p => keyPath p.1 = f.path) (fieldsOf (.map query)) pairs
  shared : ((fieldsOf (.map query)).zip pairs).Pairwise fun d e =>
    d.2.1 = e.2.1 ↔ SameList (.map query) d.1 e.1

section Flatten

variable {root : Value} {f g : Field} {p q : String × String}

lemma fieldText_container {v : Value} (h : IsContainer v) : fieldText v = Json.write .strict v := by
  cases v <;> first | rfl | exact absurd h id

lemma StandsFor.keyPath_eq (hp : StandsFor [] f p) (h : WellNamed root) (hf : IsField root f) :
    keyPath p.1 = f.path := by
  rw [hp.1]
  exact keyPath_nameOf (hf.plainText h)

lemma StandsFor.name_eq_iff (hp : StandsFor [] f p) (hq : StandsFor [] g q) (h : WellNamed root)
    (hf : IsField root f) (hg : IsField root g) (hbefore : Before root f g) :
    p.1 = q.1 ↔ SameList root f g := by
  constructor
  · intro hname
    have hpath : f.path = g.path := by
      rw [← hp.keyPath_eq h hf, ← hq.keyPath_eq h hg, hname]
    obtain ⟨i, j, hi, hj, -⟩ := hbefore.items_of_path_eq h hpath
    exact hf.sameList hg h hpath hi hj
  · rintro ⟨hpath, -⟩
    rw [hp.1, hq.1, hpath]

lemma shown_eq (hp : StandsFor [] f p) : shown f.value = .str p.2 := by
  rw [shown, hp.2]

variable {query other : Table} {pairs others : List (String × String)}

lemma standsFor_of_flatten (h : WellNamed (.map query)) (hflatten : flatten query = .ok pairs) :
    List.Forall₂ (StandsFor []) (fieldsOf (.map query)) pairs :=
  standsFor_of_flattenValue h hflatten

lemma reflects_of_standsFor (h : WellNamed (.map query))
    (hpairs : List.Forall₂ (StandsFor []) (fieldsOf (.map query)) pairs) : Reflects query pairs where
  fields _ := mem_fieldsOf h
  once := nodup_fieldsOf h
  ordered := pairwise_fieldsOf h
  values := hpairs.imp fun f p hp => by
    refine ⟨fun hv => ?_, fun hv => ?_⟩
    · exact (Except.ok.inj ((fieldText_scalar hv).symm.trans hp.2)).symm
    · rw [← fieldText_container hv]
      exact hp.2
  names := by
    have hfields := (List.forall₂_and_left _ _).2 ⟨fun f hf => (mem_fieldsOf h).1 hf, hpairs⟩
    exact hfields.imp fun f p hp => hp.2.keyPath_eq h hp.1
  shared := by
    obtain ⟨hlength, hzip⟩ := List.forall₂_iff_zip.1 hpairs
    have hordered : ((fieldsOf (.map query)).zip pairs).Pairwise fun d e =>
        Before (.map query) d.1 e.1 := by
      rw [← List.pairwise_map (f := Prod.fst) (R := Before (.map query)),
        List.map_fst_zip (Nat.le_of_eq hlength)]
      exact pairwise_fieldsOf h
    refine hordered.imp_of_mem fun {d e} hd he hbefore => ?_
    have hfield : ∀ d ∈ (fieldsOf (.map query)).zip pairs, IsField (.map query) d.1 :=
      fun d hd => (mem_fieldsOf h).1 (List.of_mem_zip hd).1
    exact (hzip hd).name_eq_iff (hzip he) h (hfield d hd) (hfield e he) hbefore

lemma pairs_eq_outline (hpairs : List.Forall₂ (StandsFor []) (fieldsOf (.map query)) pairs) :
    pairs.map (Prod.map id .str) = (outline shown (.map query)).map (Prod.map nameOf id) := by
  rw [outline, List.map_map]
  symm
  rw [← List.forall₂_eq_eq_eq, List.forall₂_map_left_iff, List.forall₂_map_right_iff]
  refine hpairs.imp fun f p hp => ?_
  exact Prod.ext hp.1.symm (shown_eq hp)

lemma keyPath_outline (h : WellNamed (.map query)) :
    ((outline shown (.map query)).map (Prod.map nameOf id)).map (Prod.map keyPath id) =
      outline shown (.map query) := by
  rw [outline, List.map_map, List.map_map]
  refine List.map_congr_left fun f hf => ?_
  exact Prod.ext (keyPath_nameOf (((mem_fieldsOf h).1 hf).plainText h)) rfl

lemma pairs_eq_iff (h : WellNamed (.map query)) (h' : WellNamed (.map other))
    (hpairs : List.Forall₂ (StandsFor []) (fieldsOf (.map query)) pairs)
    (hothers : List.Forall₂ (StandsFor []) (fieldsOf (.map other)) others) :
    others = pairs ↔ condenseEntries other = condenseEntries query := by
  constructor
  · rintro rfl
    refine entries_eq_of_condensed (condensed_condense h') (condensed_condense h) ?_
    have houtline : outline shown (.map other) = outline shown (.map query) := by
      rw [← keyPath_outline h', ← keyPath_outline h, ← pairs_eq_outline hothers,
        ← pairs_eq_outline hpairs]
    exact (outline_condense h').trans (houtline.trans (outline_condense h).symm)
  · intro hcondense
    have houtline : outline shown (.map other) = outline shown (.map query) := by
      rw [← outline_condense h', ← outline_condense h, condense, condense, hcondense]
    refine List.map_injective_iff.2 (Function.Injective.prodMap Function.injective_id
      fun _ _ => Value.str.inj) ?_
    rw [pairs_eq_outline hothers, pairs_eq_outline hpairs, houtline]

end Flatten

theorem flatten_reflects {query : Table} {pairs : List (String × String)}
    (h : WellNamed (.map query)) (hflatten : flatten query = .ok pairs) :
    Reflects query pairs ∧ ∀ other others, WellNamed (.map other) → flatten other = .ok others →
      (others = pairs ↔ condenseEntries other = condenseEntries query) := by
  have hpairs := standsFor_of_flatten h hflatten
  refine ⟨reflects_of_standsFor h hpairs, fun other others h' hother => ?_⟩
  exact pairs_eq_iff h h' hpairs (standsFor_of_flatten h' hother)

lemma wellNamed_of_texts (es : List (String × Value)) (hnodup : (es.map (·.1)).Nodup)
    (hplain : ∀ e ∈ es, PlainText e.1) (h : ∀ e ∈ es, WellNamed e.2) :
    WellNamed (.map (es.map fun e => (.str e.1, e.2))) := by
  refine .map ?_ ?_ ?_
  · have hkeys := hnodup.map fun _ _ => Value.str.inj
    rwa [List.map_map] at hkeys ⊢
  · intro e he
    obtain ⟨d, hd, rfl⟩ := List.mem_map.1 he
    exact ⟨d.1, rfl, hplain d hd⟩
  · intro e he
    obtain ⟨d, hd, rfl⟩ := List.mem_map.1 he
    exact h d hd

def search : Table :=
  [(.str "user", .map [(.str "tags", .list [.str "a", .null, .list [.int 1]])]), (.str "page", .int 2)]

def searchAgain : Table :=
  [(.str "user", .map [(.str "roles", .list []), (.str "tags", .tuple [.str "a", .str "[1]"])]),
    (.str "page", .list [.str "2"])]

lemma wellNamed_search : WellNamed (.map search) := by
  have huser := wellNamed_of_texts [("tags", .list [.str "a", .null, .list [.int 1]])]
    (by decide) (by simp [PlainText, isBracket]) (by simp [WellNamed.other])
  exact wellNamed_of_texts [("user", .map _), ("page", .int 2)] (by decide) (by simp [PlainText, isBracket])
    (by simpa [WellNamed.other] using huser)

lemma wellNamed_searchAgain : WellNamed (.map searchAgain) := by
  have huser := wellNamed_of_texts
    [("roles", .list []), ("tags", .tuple [.str "a", .str "[1]"])]
    (by decide) (by simp [PlainText, isBracket]) (by simp [WellNamed.other])
  exact wellNamed_of_texts [("user", .map _), ("page", .list [.str "2"])] (by decide)
    (by simp [PlainText, isBracket]) (by simpa [WellNamed.other] using huser)

theorem search_reflects :
    let pairs := [("user[tags]", "a"), ("user[tags]", "[1]"), ("page", "2")]
    WellNamed (.map search) ∧ flatten search = .ok pairs ∧ Reflects search pairs ∧
      WellNamed (.map searchAgain) ∧ flatten searchAgain = .ok pairs ∧
      condenseEntries searchAgain = condenseEntries search := by
  intro pairs
  obtain ⟨hreflects, hsame⟩ := flatten_reflects wellNamed_search (rfl : flatten search = .ok pairs)
  refine ⟨wellNamed_search, rfl, hreflects, wellNamed_searchAgain, rfl, ?_⟩
  exact (hsame searchAgain pairs wellNamed_searchAgain rfl).1 rfl

end HttpTemplate.Query
