import HttpTemplate.Proofs.Entries
import HttpTemplate.Proofs.Faults
import HttpTemplate.Proofs.Json.Reals
import HttpTemplate.Request

/-! The fields of a form beside the JSON of a body. Texts are sent as they are and all else as JSON
that reads back, and what JSON refuses within a container is refused. A number that is not finite and
stands by itself is sent as the text of its name. -/

namespace HttpTemplate.Multipart

open Entries Faults Parts

/-- The text of a value as JSON treats it, but for strings, which stand for themselves. -/
inductive Faithful : Value → String → Prop
  | text (s : String) : Faithful (.str s) s
  | json {v : Value} {text : String} : (∀ s, v ≠ .str s) → toJson v = .ok text →
      Json.read text = .ok v → Faithful v text

def Lone (v : Value) : Prop := ∃ x : Binary64, v = .float x ∧ x.isFinite = false

def Nested (v : Value) : Prop := Json.Unbounded v ∧ ¬ Lone v

inductive Carried : Value → String → Prop
  | faithful {v : Value} {text : String} : Faithful v text → Carried v text
  | lone {x : Binary64} : x.isFinite = false → Carried (.float x) x.text

def FormOf (text : Value → String → Prop) (es : Table) (form : Headers) : Prop :=
  List.Forall₂ (fun e field => e.1 = .str field.1 ∧ text e.2 field.2) (presentEntries es) form

def Sends (text : Value → String → Prop) (es : Table) (result : Except Fault Request) : Prop :=
  ∃ r form, result = .ok r ∧ r.form = some form ∧ FormOf text es form

structure LikeJson (es : Table) (result : Except Fault Request) : Prop where
  refuses : (∃ e ∈ es, Json.Unbounded e.2) → ∃ cause, result = .error (.template cause)
  sends : (¬ ∃ e ∈ es, Json.Unbounded e.2) → Sends Faithful es result

section Texts

variable {v : Value} {text : String}

lemma Lone.unbounded (h : Lone v) : Json.Unbounded v := by
  obtain ⟨x, rfl, hx⟩ := h
  exact .float hx

lemma toJson_unbounded (h : Json.Datum v) (hv : Json.Unbounded v) :
    toJson v = .error (.template .bodyNotFinite) := by
  rw [toJson, Json.write_unbounded rfl h hv]
  rfl

lemma toJson_bounded (h : Json.Datum v) (hv : ¬ Json.Unbounded v) :
    ∃ text, toJson v = .ok text ∧ Json.read text = .ok v := by
  obtain ⟨text, hwrite, hread⟩ := Json.read_write_datum (f := .strict) Json.spaced_line h
    fun hu => absurd hu hv
  exact ⟨text, by rw [toJson, hwrite]; rfl, hread⟩

lemma fieldText_eq_write (hnull : v ≠ .null) (hstr : ∀ s, v ≠ .str s) (hlone : ¬ Lone v)
    (h : Json.Datum v) : Query.fieldText v = Json.write .strict v := by
  cases h with
  | null => exact absurd rfl hnull
  | bool b => cases b <;> rfl
  | int hn => exact (if_pos (decide_eq_true hn)).symm
  | @float x _ =>
    cases x with
    | finite => rfl
    | _ => exact absurd ⟨_, rfl, rfl⟩ hlone
  | str s => exact absurd rfl (hstr s)
  | list => rfl
  | map => rfl

lemma fieldText_nested (h : Json.Datum v) (hv : Nested v) :
    (Query.fieldText v).mapError Fault.ofWriteFault = .error (.template .bodyNotFinite) := by
  have hnull : v ≠ .null := by
    rintro rfl
    cases hv.1
  have hstr : ∀ s, v ≠ .str s := by
    rintro s rfl
    cases hv.1
  rw [fieldText_eq_write hnull hstr hv.2 h]
  exact toJson_unbounded h hv.1

lemma fieldText_carried (h : Json.Datum v) (hnull : v ≠ .null) (hv : ¬ Nested v) :
    ∃ text, Query.fieldText v = .ok text ∧ Carried v text := by
  by_cases hlone : Lone v
  · obtain ⟨x, rfl, hx⟩ := hlone
    exact ⟨x.text, rfl, .lone hx⟩
  by_cases hstr : ∃ s, v = .str s
  · obtain ⟨s, rfl⟩ := hstr
    exact ⟨s, rfl, .faithful (.text s)⟩
  have hstr : ∀ s, v ≠ .str s := fun s hs => hstr ⟨s, hs⟩
  obtain ⟨text, hjson, hread⟩ := toJson_bounded h fun hu => hv ⟨hu, hlone⟩
  have htext : Query.fieldText v = .ok text := by
    rw [fieldText_eq_write hnull hstr hlone h]
    exact mapError_eq_ok.mp hjson
  exact ⟨text, htext, .faithful (.json hstr hjson hread)⟩

lemma Carried.faithful_of_not_lone (h : Carried v text) (hlone : ¬ Lone v) : Faithful v text := by
  cases h with
  | faithful h => exact h
  | lone hx => exact absurd ⟨_, rfl, hx⟩ hlone

end Texts

section Forms

variable {es : Table}

lemma fields_data (hk : ∀ e ∈ es, ∃ name, e.1 = .str name) (hdata : ∀ e ∈ es, Json.Datum e.2)
    (hnull : ∀ e ∈ es, e.2 ≠ .null) :
    (∃ e ∈ es, Nested e.2) ∧ fields es = .error (.template .bodyNotFinite) ∨
      (∀ e ∈ es, ¬ Nested e.2) ∧ ∃ form, fields es = .ok form ∧
        List.Forall₂ (fun e field => e.1 = .str field.1 ∧ Carried e.2 field.2) es form := by
  induction es with
  | nil => exact .inr ⟨by simp, [], rfl, .nil⟩
  | cons e es ih =>
    obtain ⟨k, v⟩ := e
    rw [List.forall_mem_cons] at hk hdata hnull
    obtain ⟨⟨name, rfl⟩, hk⟩ := hk
    rw [fields]
    -- the first nested number that is not finite ends the form, whatever comes after it
    by_cases hv : Nested v
    · refine .inl ⟨⟨_, List.mem_cons_self, hv⟩, ?_⟩
      rw [fieldText_nested hdata.1 hv]
      rfl
    obtain ⟨text, htext, hcarried⟩ := fieldText_carried hdata.1 hnull.1 hv
    rw [htext]
    rcases ih hk hdata.2 hnull.2 with ⟨⟨d, hd, hnested⟩, hfields⟩ | ⟨hes, form, hfields, hform⟩
    · refine .inl ⟨⟨d, List.mem_cons_of_mem _ hd, hnested⟩, ?_⟩
      rw [hfields]
      rfl
    · refine .inr ⟨List.forall_mem_cons.mpr ⟨hv, hes⟩, (name, text) :: form, ?_,
        .cons ⟨rfl, hcarried⟩ hform⟩
      rw [hfields]
      rfl

lemma mem_presentEntries {e : Value × Value} :
    e ∈ presentEntries es ↔ e ∈ es ∧ e.2 ≠ .null := by
  rw [presentEntries, List.mem_filter, Ne, ← Value.isNull_iff]
  simp

lemma Nested.ne_null {v : Value} (h : Nested v) : v ≠ .null := by
  rintro rfl
  cases h.1

lemma ofPairs_form {text : Value → String → Prop} {form : Headers} (hnodup : (keys es).Nodup)
    (h : FormOf text es form) : ofPairs form = form := by
  apply ofPairs_eq_self
  have hnames : keys (presentEntries es) = form.map (Value.str ·.1) := by
    rw [FormOf] at h
    generalize presentEntries es = present at h ⊢
    induction h with
    | nil => rfl
    | cons hfield _ ih => rw [keys_cons, hfield.1, ih, List.map_cons]
  have hpresent : (keys (presentEntries es)).Nodup :=
    hnodup.sublist (List.filter_sublist.map _)
  rw [hnames] at hpresent
  exact (List.map_map (f := Prod.fst) (g := Value.str) ▸ hpresent).of_map

lemma form_data (h : Json.Datum (.map es)) :
    (∃ e ∈ es, Nested e.2) ∧ form (.map es) = .error (.template .bodyNotFinite) ∨
      (¬ ∃ e ∈ es, Nested e.2) ∧ ∃ fields, form (.map es) = .ok fields ∧
        FormOf Carried es fields := by
  cases h with
  | map hk hnodup hdata =>
    have hpresent := fun e (he : e ∈ presentEntries es) => mem_presentEntries.mp he
    rcases fields_data (fun e he => hk e (hpresent e he).1) (fun e he => hdata e (hpresent e he).1)
      (fun e he => (hpresent e he).2) with ⟨⟨e, he, hv⟩, hfields⟩ | ⟨hes, fields, hfields, hform⟩
    · refine .inl ⟨⟨e, (hpresent e he).1, hv⟩, ?_⟩
      rw [form, hfields]
      rfl
    · refine .inr ⟨?_, fields, ?_, hform⟩
      · rintro ⟨e, he, hv⟩
        exact hes e (mem_presentEntries.mpr ⟨he, hv.ne_null⟩) hv
      · rw [form, hfields, Except.map, ofPairs_form hnodup hform]

end Forms

section Requests

variable {p : Parts} {s : Settings} {es : Table}

lemma assemble_form [Idna] (hbody : p.body = .map es) (hfiles : p.attachments ≠ []) :
    p.assemble s = requestUrl p.url p.query >>= fun url => (form (.map es)).map fun form => {
      url, method := methodText p.method
      timeout := s.timeout, allowRedirects := s.allowRedirects
      headers := some (((requestHeaders p.headers).withDefault "Accept" Request.jsonType).without
        "content-type")
      form := some form
      files := p.attachments } := by
  have hsome : (!p.attachments.isEmpty) = true := by simpa using hfiles
  simp only [assemble, hsome, hbody]
  cases requestUrl p.url p.query with
  | error fault => rfl
  | ok url => cases form (.map es) <;> rfl

lemma assemble_data [Idna] (hbody : p.body = .map es) (hfiles : p.attachments ≠ [])
    (h : Json.Datum (.map es)) {url : String} (hurl : requestUrl p.url p.query = .ok url) :
    ((∃ e ∈ es, Nested e.2) → p.assemble s = .error (.template .bodyNotFinite)) ∧
      ((¬ ∃ e ∈ es, Nested e.2) → Sends Carried es (p.assemble s)) := by
  rw [assemble_form hbody hfiles, hurl]
  rcases form_data h with ⟨hes, hform⟩ | ⟨hes, fields, hform, hfields⟩
  · exact ⟨fun _ => by rw [hform]; rfl, fun hnone => absurd hes hnone⟩
  · refine ⟨fun hsome => absurd hsome hes, fun _ => ?_⟩
    rw [hform]
    exact ⟨_, fields, rfl, rfl, hfields⟩

lemma FormOf.faithful {form : Headers} (h : FormOf Carried es form)
    (hlone : ∀ e ∈ es, ¬ Lone e.2) : FormOf Faithful es form := by
  have hpresent : ∀ e ∈ presentEntries es, ¬ Lone e.2 := fun e he =>
    hlone e (mem_presentEntries.mp he).1
  rw [FormOf] at h ⊢
  generalize presentEntries es = present at h hpresent ⊢
  induction h with
  | nil => exact .nil
  | cons hfield _ ih =>
    rw [List.forall_mem_cons] at hpresent
    exact .cons ⟨hfield.1, hfield.2.faithful_of_not_lone hpresent.1⟩ (ih hpresent.2)

theorem form_like_json_iff [Idna] (hbody : p.body = .map es) (hdata : Json.Datum (.map es))
    (hfiles : p.attachments ≠ []) :
    (∀ fault, requestUrl p.url p.query = .error fault → p.assemble s = .error fault) ∧
      ∀ url, requestUrl p.url p.query = .ok url →
        ((∃ e ∈ es, Nested e.2) → p.assemble s = .error (.template .bodyNotFinite)) ∧
        ((¬ ∃ e ∈ es, Nested e.2) → Sends Carried es (p.assemble s)) ∧
        (LikeJson es (p.assemble s) ↔ (∃ e ∈ es, Nested e.2) ∨ ∀ e ∈ es, ¬ Lone e.2) := by
  refine ⟨fun fault hurl => by rw [assemble_form hbody hfiles, hurl]; rfl, fun url hurl => ?_⟩
  obtain ⟨hrefuses, hsends⟩ := assemble_data (s := s) hbody hfiles hdata hurl
  refine ⟨hrefuses, hsends, fun hlike => ?_, fun h => ⟨fun hsome => ?_, fun hnone => ?_⟩⟩
  · -- a number by itself that is not finite would have to be refused, but it is sent
    by_contra hnot
    obtain ⟨hnested, hlone⟩ := not_or.mp hnot
    push Not at hlone
    obtain ⟨e, he, hlone⟩ := hlone
    obtain ⟨cause, hfault⟩ := hlike.refuses ⟨e, he, hlone.unbounded⟩
    obtain ⟨r, form, hok, -⟩ := hsends hnested
    cases hok.symm.trans hfault
  · rcases h with h | hlone
    · exact ⟨_, hrefuses h⟩
    · obtain ⟨e, he, hv⟩ := hsome
      exact ⟨_, hrefuses ⟨e, he, hv, hlone e he⟩⟩
  · have hnested : ¬ ∃ e ∈ es, Nested e.2 := fun ⟨e, he, hv⟩ => hnone ⟨e, he, hv.1⟩
    have hlone : ∀ e ∈ es, ¬ Lone e.2 := fun e he hv => hnone ⟨e, he, hv.unbounded⟩
    obtain ⟨r, form, hok, hr, hform⟩ := hsends hnested
    exact ⟨r, form, hok, hr, hform.faithful hlone⟩

end Requests

def upload (fields : Table) : Parts where
  method := "post"
  url := "http://a.test/"
  body := .map fields
  attachments := [⟨"file", "/tmp/data.bin"⟩]

def review : Table :=
  [(.str "rate", .float (.finite false 6755399441055744 (-52))), (.str "note", .str "hi"),
    (.str "skip", .null), (.str "meta", .map [(.str "k", .list [.bool true, .int (-2)])])]

lemma datum_review : Json.Datum (.map review) := by
  have hlist : Json.Datum (.list [.bool true, .int (-2)]) := by
    apply Json.Datum.list
    simp only [List.forall_mem_cons]
    exact ⟨.bool _, .int (by decide), by simp⟩
  have hmeta : Json.Datum (.map [(.str "k", .list [.bool true, .int (-2)])]) := by
    refine .map (by simp) (by simp) ?_
    simp only [List.forall_mem_cons]
    exact ⟨hlist, by simp⟩
  refine .map (by simp [review]) (by simp [review]) ?_
  simp only [review, List.forall_mem_cons]
  exact ⟨.float ⟨by decide, by decide, by decide, by decide⟩, .str _, .null, hmeta, by simp⟩

open scoped Idna in
theorem review_like_json :
    (upload review).attachments ≠ [] ∧ Json.Datum (.map review) ∧
      LikeJson review ((upload review).assemble { timeout := .int 10 }) ∧
      ∃ r, (upload review).assemble { timeout := .int 10 } = .ok r ∧
        r.form = some [("rate", "1.5"), ("note", "hi"), ("meta", "\x7b\"k\": [true, -2]\x7d")] := by
  have hfiles : (upload review).attachments ≠ [] := by simp [upload]
  have hlone : ∀ e ∈ review, ¬ Lone e.2 := by
    simp [review, Lone, Binary64.isFinite]
  obtain ⟨-, hurl⟩ := form_like_json_iff (s := { timeout := .int 10 }) rfl datum_review hfiles
  have hrun : (((upload review).assemble { timeout := .int 10 }).toOption.map (·.form)) =
      some (some [("rate", "1.5"), ("note", "hi"), ("meta", "\x7b\"k\": [true, -2]\x7d")]) := by
    decide +kernel
  obtain ⟨r, hr, hform⟩ := Option.map_eq_some_iff.mp hrun
  exact ⟨hfiles, datum_review, (hurl _ rfl).2.2.mpr (.inr hlone), r, toOption_eq_some.mp hr, hform⟩

def rating : Table := [(.str "n", .float .nan)]

open scoped Idna in
theorem rating_unlike_json :
    Json.Datum (.map rating) ∧ (upload rating).attachments ≠ [] ∧
      (∃ r, (upload rating).assemble { timeout := .int 10 } = .ok r ∧
        r.form = some [("n", "nan")]) ∧
      ¬ LikeJson rating ((upload rating).assemble { timeout := .int 10 }) := by
  have hdatum : Json.Datum (.map rating) := by
    refine .map (by simp [rating]) (by simp [rating]) ?_
    simp only [rating, List.forall_mem_cons]
    exact ⟨.float trivial, by simp⟩
  have hrun : (((upload rating).assemble { timeout := .int 10 }).toOption.map (·.form)) =
      some (some [("n", "nan")]) := by
    decide +kernel
  obtain ⟨r, hr, hform⟩ := Option.map_eq_some_iff.mp hrun
  have hok := toOption_eq_some.mp hr
  refine ⟨hdatum, by simp [upload], ⟨r, hok, hform⟩, fun hlike => ?_⟩
  obtain ⟨cause, hfault⟩ := hlike.refuses ⟨_, List.mem_cons_self, .float rfl⟩
  cases hok.symm.trans hfault

end HttpTemplate.Multipart
