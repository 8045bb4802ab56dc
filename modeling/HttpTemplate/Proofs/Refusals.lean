import HttpTemplate.Proofs.Construction
import HttpTemplate.Proofs.Descriptors

/-! Which descriptors a template is made from. All others are refused with a fault of the template,
but for attachments that are true or a number: they are iterated without a look at their type. -/

namespace HttpTemplate.Refusals

open Construction Faults Json Substitution Template

/-- A step that succeeds under a condition and fails with a fault of the template otherwise. -/
def Checks {α : Type} (x : Except Fault α) (sound : Prop) : Prop :=
  sound ∧ (∃ a, x = .ok a) ∨ ¬ sound ∧ ∃ cause, x = .error (.template cause)

def HasUrl (d : Table) : Prop := ∃ url, url ≠ "" ∧ firstOf d ["url"] = .str url

def Optional (v : Value) : Prop := v = .null ∨ ∃ es, v = .map es

def IsFile (v : Value) : Prop :=
  ∃ es, v = .map es ∧ (firstOf es ["field"]).truthy = true ∧
    (firstOf es ["filePath", "file_path", "path"]).truthy = true

def Attachable (v : Value) : Prop :=
  v.truthy = false ∨ ∃ vs, v = .list vs ∧ ∀ w ∈ vs, IsFile w

def Counted (v : Value) : Prop :=
  v = .bool true ∨ (∃ n, v = .int n ∧ n ≠ 0) ∨ ∃ x : Binary64, v = .float x ∧ x.isZero = false

def attached (d : Table) : Value := firstOf d ["formData", "attachments"]

structure Prepared (d : Table) : Prop where
  url : HasUrl d
  headers : Optional (firstOf d ["headers"])
  query : Optional (firstOf d ["query"])

structure WellFormed (d : Table) : Prop where
  prepared : Prepared d
  attachments : Attachable (attached d)

section Checks

variable {α β : Type} {x : Except Fault α} {f : α → Except Fault β} {p q : Prop}

lemma Checks.congr (h : Checks x p) (hpq : p ↔ q) : Checks x q := by
  rwa [← propext hpq]

lemma Checks.bind (h : Checks x p) (hf : ∀ a, Checks (f a) q) : Checks (x >>= f) (p ∧ q) := by
  rcases h with ⟨hp, a, rfl⟩ | ⟨hp, cause, rfl⟩
  · exact (hf a).congr (and_iff_right hp).symm
  · exact .inr ⟨fun hpq => hp hpq.1, cause, rfl⟩

lemma Checks.pure (a : α) : Checks (.ok a) True := .inl ⟨trivial, a, rfl⟩

end Checks

section Parts

variable {d : Table} {t : Template} {v : Value} (s : Settings)

lemma start_checks (d : Table) : Checks (start s d) (HasUrl d) := by
  rw [start.eq_def]
  split
  · next url hurl =>
    split
    · next hempty =>
      refine .inr ⟨?_, _, rfl⟩
      rintro ⟨other, hne, hother⟩
      cases hurl.symm.trans hother
      exact hne hempty
    · next hne => exact .inl ⟨⟨url, hne, hurl⟩, _, rfl⟩
  · next hurl =>
    refine .inr ⟨?_, _, rfl⟩
    rintro ⟨url, -, h⟩
    exact hurl url h

lemma setPart_checks {set : Template → Value → Except Fault Template} {p : Prop}
    (h : Checks (set t v) p) : Checks (t.setPart v set) (v = .null ∨ p) := by
  rw [setPart]
  split
  · next hnull => exact .inl ⟨.inl (Value.isNull_iff.mp hnull), t, rfl⟩
  · next hnull => exact h.congr (or_iff_right (mt Value.isNull_iff.mpr hnull)).symm

lemma mapping_checks (t : Template) (v : Value) :
    Checks (t.setHeaders v) (∃ es, v = .map es) ∧ Checks (t.setQuery v) (∃ es, v = .map es) := by
  by_cases h : ∃ es, v = .map es
  · obtain ⟨es, rfl⟩ := h
    exact ⟨.inl ⟨⟨es, rfl⟩, _, rfl⟩, .inl ⟨⟨es, rfl⟩, _, rfl⟩⟩
  · cases v with
    | map es => exact absurd ⟨es, rfl⟩ h
    | _ => exact ⟨.inr ⟨h, _, rfl⟩, .inr ⟨h, _, rfl⟩⟩

lemma attachmentOf_checks (h : Document v) : Checks (attachmentOf v) (IsFile v) := by
  cases h with
  | @map es =>
    rw [attachmentOf]
    split
    · next hparts => exact .inl ⟨⟨es, rfl, by simpa using hparts⟩, _, rfl⟩
    · next hparts =>
      refine .inr ⟨?_, _, rfl⟩
      rintro ⟨es', heq, hfield, hpath⟩
      cases heq
      exact hparts (by rw [hfield, hpath]; rfl)
  | _ =>
    refine .inr ⟨?_, _, rfl⟩
    rintro ⟨es, heq, -⟩
    cases heq

lemma attachments_checks {vs : List Value} (h : ∀ v ∈ vs, Document v) :
    Checks (vs.mapM attachmentOf) (∀ v ∈ vs, IsFile v) := by
  induction vs with
  | nil => exact .inl ⟨by simp, [], rfl⟩
  | cons v vs ih =>
    rw [List.forall_mem_cons] at h
    rw [List.mapM_cons]
    refine ((attachmentOf_checks h.1).bind fun a => (ih h.2).bind fun as => .pure (a :: as)).congr ?_
    rw [and_true, List.forall_mem_cons]

lemma attachmentsOf_elements {vs : List Value} (htruthy : v.truthy = true)
    (hvs : v.elements? = some vs) : attachmentsOf v = vs.mapM attachmentOf := by
  rw [attachmentsOf, htruthy, Value.elements, hvs]
  rfl

lemma attachmentsOf_falsy (h : v.truthy = false) : Checks (attachmentsOf v) (Attachable v) := by
  rw [attachmentsOf, h]
  exact .inl ⟨.inl h, [], rfl⟩

lemma attachmentsOf_texts {vs : List Value} (htruthy : v.truthy = true)
    (hvs : v.elements? = some vs) (hne : vs ≠ []) (htexts : ∀ w ∈ vs, ∃ s, w = .str s)
    (hlist : ∀ ws, v ≠ .list ws) : Checks (attachmentsOf v) (Attachable v) := by
  have hdocuments : ∀ w ∈ vs, Document w := by
    intro w hw
    obtain ⟨s, rfl⟩ := htexts w hw
    exact .str s
  rw [attachmentsOf_elements htruthy hvs]
  refine (attachments_checks hdocuments).congr ⟨fun hfiles => ?_, ?_⟩
  · obtain ⟨w, hw⟩ := List.exists_mem_of_ne_nil vs hne
    obtain ⟨s, rfl⟩ := htexts w hw
    obtain ⟨es, heq, -⟩ := hfiles _ hw
    cases heq
  · rintro (hfalsy | ⟨ws, rfl, -⟩)
    · rw [htruthy] at hfalsy
      cases hfalsy
    · exact absurd rfl (hlist ws)

lemma attachmentsOf_checks (h : Document v) (hcounted : ¬ Counted v) :
    Checks (attachmentsOf v) (Attachable v) := by
  cases htruthy : v.truthy with
  | false => exact attachmentsOf_falsy htruthy
  | true =>
    cases h with
    | null => cases htruthy
    | bool b =>
      obtain rfl : b = true := htruthy
      exact absurd (.inl rfl) hcounted
    | int n => exact absurd (.inr (.inl ⟨n, rfl, by simpa [Value.truthy] using htruthy⟩)) hcounted
    | float x =>
      exact absurd (.inr (.inr ⟨x, rfl, by simpa [Value.truthy] using htruthy⟩)) hcounted
    | str s =>
      -- a text gives its characters and a mapping its keys, which are no files
      apply attachmentsOf_texts htruthy rfl
      · simpa [Value.truthy] using htruthy
      · intro w hw
        obtain ⟨c, -, rfl⟩ := List.mem_map.mp hw
        exact ⟨_, rfl⟩
      · intro ws heq
        cases heq
    | @list vs hvs =>
      rw [attachmentsOf_list]
      refine (attachments_checks hvs).congr ⟨fun hfiles => .inr ⟨vs, rfl, hfiles⟩, ?_⟩
      rintro (hfalsy | ⟨ws, heq, hfiles⟩)
      · rw [htruthy] at hfalsy
        cases hfalsy
      · cases heq
        exact hfiles
    | @map es hk _ =>
      apply attachmentsOf_texts htruthy rfl
      · simpa [Value.truthy, Entries.keys] using htruthy
      · intro w hw
        obtain ⟨e, he, rfl⟩ := List.mem_map.mp hw
        exact hk e he
      · intro ws heq
        cases heq

lemma attachmentsOf_counted (h : Counted v) :
    attachmentsOf v = .error (.misuse (.notIterable v.typeName)) := by
  have hcases : v.truthy = true ∧ v.elements? = none := by
    rcases h with rfl | ⟨n, rfl, hn⟩ | ⟨x, rfl, hx⟩
    · exact ⟨rfl, rfl⟩
    · exact ⟨by simpa [Value.truthy] using hn, rfl⟩
    · exact ⟨by simpa [Value.truthy] using hx, rfl⟩
  rw [attachmentsOf, hcases.1, Value.elements, hcases.2]
  rfl

end Parts

section Templates

variable {d : Table} (s : Settings) (url : Value)

def prepare (s : Settings) (d : Table) : Except Fault Template := do
  let t ← start s d
  let t ← t.setPart (firstOf d ["headers"]) setHeaders
  let t ← t.setPart (firstOf d ["query"]) setQuery
  t.setPart (firstOf d ["body"]) fun t v => .ok (t.setBody v)

lemma make_eq (d : Table) :
    make s (.map d) url = prepare s d >>= fun t =>
      attachmentsOf (attached d) >>= fun attachments => .ok { t with attachments } := by
  simp only [make, ofDescriptor, fill, prepare, bind_assoc, attached]
  rfl

lemma prepare_checks (d : Table) : Checks (prepare s d) (Prepared d) := by
  have hbody : ∀ t : Template,
      Checks (t.setPart (firstOf d ["body"]) fun t v => .ok (t.setBody v)) True := fun t =>
    (setPart_checks (.pure _)).congr (by simp)
  refine ((start_checks s d).bind fun t => (setPart_checks (mapping_checks t _).1).bind fun t =>
    (setPart_checks (mapping_checks t _).2).bind fun t => hbody t).congr ?_
  constructor
  · rintro ⟨hurl, hheaders, hquery, -⟩
    exact ⟨hurl, hheaders, hquery⟩
  · rintro ⟨hurl, hheaders, hquery⟩
    exact ⟨hurl, hheaders, hquery, trivial⟩

lemma make_checks (hd : Members d) (hcounted : ¬ Counted (attached d)) :
    Checks (make s (.map d) url) (WellFormed d) := by
  rw [make_eq]
  refine ((prepare_checks s d).bind fun t =>
    (attachmentsOf_checks (document_firstOf hd _) hcounted).bind fun as => .pure _).congr ?_
  constructor
  · rintro ⟨hprepared, hattachments, -⟩
    exact ⟨hprepared, hattachments⟩
  · rintro ⟨hprepared, hattachments⟩
    exact ⟨hprepared, hattachments, trivial⟩

lemma not_attachable_of_counted {v : Value} (h : Counted v) : ¬ Attachable v := by
  rintro (hfalsy | ⟨vs, rfl, -⟩)
  · rcases h with rfl | ⟨n, rfl, hn⟩ | ⟨x, rfl, hx⟩
    · cases hfalsy
    · simp [Value.truthy, hn] at hfalsy
    · simp [Value.truthy, hx] at hfalsy
  · rcases h with h | ⟨n, h, -⟩ | ⟨x, h, -⟩ <;> cases h

lemma make_counted (hcounted : Counted (attached d)) :
    (Prepared d → make s (.map d) url = .error (.misuse (.notIterable (attached d).typeName))) ∧
      (¬ Prepared d → ∃ cause, make s (.map d) url = .error (.template cause)) := by
  rw [make_eq, attachmentsOf_counted hcounted]
  rcases prepare_checks s d with ⟨hprepared, t, ht⟩ | ⟨hprepared, cause, ht⟩
  · rw [ht]
    exact ⟨fun _ => rfl, fun hnot => absurd hprepared hnot⟩
  · rw [ht]
    exact ⟨fun hsome => absurd hsome hprepared, fun _ => ⟨cause, rfl⟩⟩

lemma make_cases (hd : Members d) :
    WellFormed d ∧ (∃ t, make s (.map d) url = .ok t) ∨
      (Prepared d ∧ Counted (attached d)) ∧
        make s (.map d) url = .error (.misuse (.notIterable (attached d).typeName)) ∨
      (¬ WellFormed d ∧ ¬ (Prepared d ∧ Counted (attached d))) ∧
        ∃ cause, make s (.map d) url = .error (.template cause) := by
  by_cases hcounted : Counted (attached d)
  · obtain ⟨hmisused, hrefused⟩ := make_counted s url hcounted
    by_cases hprepared : Prepared d
    · exact .inr (.inl ⟨⟨hprepared, hcounted⟩, hmisused hprepared⟩)
    · exact .inr (.inr ⟨⟨fun h => hprepared h.prepared, fun h => hprepared h.1⟩,
        hrefused hprepared⟩)
  · rcases make_checks s url hd hcounted with ⟨hwell, ht⟩ | ⟨hwell, hcause⟩
    · exact .inl ⟨hwell, ht⟩
    · exact .inr (.inr ⟨⟨hwell, fun h => hcounted h.2⟩, hcause⟩)

theorem make_refuses_with_template_fault_iff (hd : Members d) :
    ((∃ t, make s (.map d) url = .ok t) ↔ WellFormed d) ∧
      (((∃ t, make s (.map d) url = .ok t) ∨
        ∃ cause, make s (.map d) url = .error (.template cause)) ↔
          ¬ (Prepared d ∧ Counted (attached d))) ∧
      (Prepared d → Counted (attached d) →
        make s (.map d) url = .error (.misuse (.notIterable (attached d).typeName))) := by
  rcases make_cases s url hd with ⟨hwell, ht⟩ | ⟨hcounted, hfault⟩ | ⟨⟨hwell, hcounted⟩, hfault⟩
  · have hnot : ¬ (Prepared d ∧ Counted (attached d)) := fun h =>
      not_attachable_of_counted h.2 hwell.attachments
    exact ⟨iff_of_true ht hwell, iff_of_true (.inl ht) hnot, fun hp hc => absurd ⟨hp, hc⟩ hnot⟩
  · have hwell : ¬ WellFormed d := fun h => not_attachable_of_counted hcounted.2 h.attachments
    rw [hfault]
    exact ⟨iff_of_false (by simp) hwell, iff_of_false (by simp) (not_not_intro hcounted),
      fun _ _ => rfl⟩
  · obtain ⟨cause, hfault⟩ := hfault
    rw [hfault]
    exact ⟨iff_of_false (by simp) hwell, iff_of_true (.inr ⟨cause, rfl⟩) hcounted,
      fun hp hc => absurd ⟨hp, hc⟩ hcounted⟩

end Templates

def filing : Table :=
  [(.str "url", .str "http://a.test/{id}"), (.str "headers", .null),
    (.str "query", .map [(.str "page", .int 2)]),
    (.str "attachments", .list [.map [(.str "field", .str "file"), (.str "file_path", .int 7)]])]

lemma members_filing : Members filing := by
  have hquery : Document (.map [(.str "page", .int 2)]) :=
    (members_cons (.int 2) members_nil).document
  have hfile : Document (.map [(.str "field", .str "file"), (.str "file_path", .int 7)]) :=
    (members_cons (.str _) (members_cons (.int 7) members_nil)).document
  have hfiles : Document (.list [.map [(.str "field", .str "file"), (.str "file_path", .int 7)]]) := by
    apply Document.list
    simpa using hfile
  exact members_cons (.str _) (members_cons .null (members_cons hquery
    (members_cons hfiles members_nil)))

theorem filing_not_refused :
    Members filing ∧ ∃ t, make { timeout := .int 10 } (.map filing) .null = .ok t := by
  have hprepared : Prepared filing :=
    ⟨⟨"http://a.test/{id}", by decide, rfl⟩, .inl rfl, .inr ⟨_, rfl⟩⟩
  have hattachments : Attachable (attached filing) := by
    refine .inr ⟨_, rfl, ?_⟩
    simp only [List.forall_mem_cons]
    exact ⟨⟨_, rfl, rfl, rfl⟩, by simp⟩
  have hwell : WellFormed filing := ⟨hprepared, hattachments⟩
  exact ⟨members_filing, (make_refuses_with_template_fault_iff _ _ members_filing).1.mpr hwell⟩

def miscounting : Table := [(.str "url", .str "http://h/"), (.str "formData", .int 5)]

theorem miscounting_not_template_fault :
    Members miscounting ∧
      make { timeout := .int 10 } (.map miscounting) .null =
        .error (.misuse (.notIterable "int")) ∧
      ¬ ((∃ t, make { timeout := .int 10 } (.map miscounting) .null = .ok t) ∨
        ∃ cause, make { timeout := .int 10 } (.map miscounting) .null =
          .error (.template cause)) := by
  have hmembers : Members miscounting :=
    members_cons (.str _) (members_cons (.int 5) members_nil)
  have hcounted : Counted (attached miscounting) := .inr (.inl ⟨5, rfl, by decide⟩)
  have hprepared : Prepared miscounting :=
    ⟨⟨"http://h/", by decide, rfl⟩, .inl rfl, .inl rfl⟩
  have hfault := (make_counted { timeout := .int 10 } .null hcounted).1 hprepared
  refine ⟨hmembers, hfault, ?_⟩
  rw [hfault]
  simp

end HttpTemplate.Refusals
