import HttpTemplate.Proofs.CommandLine.Endings
import HttpTemplate.Proofs.Spelling

/-! Arguments on the command line. A word gives a name the text after its first sign of equality,
and the last word for a name counts. No name of a template has that sign in it, so that every map of
the names can be written in words, and the template called with the words as with the map. -/

namespace HttpTemplate.CommandLine

open Delivery Entries Execution Faults Parameters Placeholder Spelling

structure Assigns (item name value : String) : Prop where
  text : item = name ++ "=" ++ value
  name_ne_empty : name ≠ ""
  name : '=' ∉ name.toList

def Malformed (item : String) : Prop := '=' ∉ item.toList ∨ item.toList.head? = some '='

def LastAssigns (items : List String) (name value : String) : Prop :=
  ∃ before item after, items = before ++ item :: after ∧ Assigns item name value ∧
    ∀ later ∈ after, ∀ other, ¬ Assigns later name other

def parts (item : String) : String × String :=
  (String.ofList (Text.splitFirst '=' item.toList).1,
    String.ofList ((Text.splitFirst '=' item.toList).2.getD []))

section Words

variable {item name value : String} {items : List String}

lemma splitFirst_of_assigns (h : Assigns item name value) :
    Text.splitFirst '=' item.toList = (name.toList, some value.toList) := by
  have htext : item.toList = name.toList ++ '=' :: value.toList := by simp [h.text]
  rw [htext, Text.splitFirst_append h.name]

lemma parts_of_assigns (h : Assigns item name value) : parts item = (name, value) := by
  simp [parts, splitFirst_of_assigns h]

lemma assignment_of_assigns (h : Assigns item name value) :
    assignment item = .ok (name, value) := by
  rw [h.text]
  exact assignment_item (e := (name, value)) h.name_ne_empty h.name

lemma not_malformed_of_assigns (h : Assigns item name value) : ¬ Malformed item := by
  have htext : item.toList = name.toList ++ '=' :: value.toList := by simp [h.text]
  have hne : name.toList ≠ [] := by simpa using h.name_ne_empty
  obtain ⟨c, s, hs⟩ := List.exists_cons_of_ne_nil hne
  rintro (hnone | hhead)
  · exact hnone (htext ▸ List.mem_append_right _ List.mem_cons_self)
  · rw [htext, hs] at hhead
    cases hhead
    exact h.name (hs ▸ List.mem_cons_self)

lemma assigns_parts (h : ¬ Malformed item) : Assigns item (parts item).1 (parts item).2 := by
  obtain ⟨hmem, hhead⟩ := not_or.mp h
  rcases Text.splitFirst_cases '=' item.toList with ⟨hnone, -⟩ | ⟨p, t, htext, hp, hsplit⟩
  · exact absurd hnone hmem
  · refine ⟨?_, ?_, by simpa [parts, hsplit] using hp⟩
    · have hjoined : item.toList = p ++ '=' :: t := htext
      rw [← String.toList_inj, hjoined]
      simp [parts, hsplit]
    · rintro hempty
      have hp : p = [] := by simpa [parts, hsplit] using hempty
      exact hhead (by rw [htext, hp]; rfl)

lemma assignment_of_malformed (h : Malformed item) :
    assignment item = .error (.badAssignment item) := by
  rcases Text.splitFirst_cases '=' item.toList with ⟨-, hsplit⟩ | ⟨p, t, htext, hp, hsplit⟩
  · rw [assignment, hsplit]
  · have hempty : p = [] := by
      rcases h with hnone | hhead
      · exact absurd (htext ▸ List.mem_append_right _ List.mem_cons_self) hnone
      · cases p with
        | nil => rfl
        | cons c p =>
          rw [htext] at hhead
          cases hhead
          exact absurd List.mem_cons_self hp
    rw [assignment, hsplit, hempty]
    rfl

lemma pairs_of_forall (h : ∀ item ∈ items, ¬ Malformed item) :
    pairs items = .ok (items.map parts) := by
  induction items with
  | nil => rfl
  | cons item items ih =>
    obtain ⟨hitem, hitems⟩ := List.forall_mem_cons.mp h
    rw [pairs, assignment_of_assigns (assigns_parts hitem), ih hitems]
    rfl

lemma pairs_of_malformed {before after : List String} (hbefore : ∀ b ∈ before, ¬ Malformed b)
    (h : Malformed item) : pairs (before ++ item :: after) = .error (.badAssignment item) := by
  induction before with
  | nil =>
    rw [List.nil_append, pairs, assignment_of_malformed h]
    rfl
  | cons first before ih =>
    obtain ⟨hfirst, hrest⟩ := List.forall_mem_cons.mp hbefore
    rw [List.cons_append, pairs, assignment_of_assigns (assigns_parts hfirst), ih hrest]
    rfl

lemma malformed_cases (items : List String) : (∀ item ∈ items, ¬ Malformed item) ∨
    ∃ before item after, items = before ++ item :: after ∧ (∀ b ∈ before, ¬ Malformed b) ∧
      Malformed item := by
  induction items with
  | nil => exact .inl (List.forall_mem_nil _)
  | cons first items ih =>
    by_cases hfirst : Malformed first
    · exact .inr ⟨[], first, items, rfl, List.forall_mem_nil _, hfirst⟩
    · rcases ih with hall | ⟨before, item, after, rfl, hbefore, hitem⟩
      · exact .inl (List.forall_mem_cons.mpr ⟨hfirst, hall⟩)
      · exact .inr ⟨first :: before, item, after, rfl,
          List.forall_mem_cons.mpr ⟨hfirst, hbefore⟩, hitem⟩

lemma assignments_of_forall (h : ∀ item ∈ items, ¬ Malformed item) :
    assignments items = .ok (ofPairs (items.map parts)) := by
  rw [assignments, pairs_of_forall h]
  rfl

lemma refused_of_error {e : UsageError} (h : assignments items = .error e) :
    ∃ before item after, items = before ++ item :: after ∧ (∀ b ∈ before, ¬ Malformed b) ∧
      Malformed item ∧ e = .badAssignment item := by
  rcases malformed_cases items with hall | ⟨before, item, after, rfl, hbefore, hitem⟩
  · cases (assignments_of_forall hall).symm.trans h
  · cases (pairs_of_malformed hbefore hitem).symm.trans (map_eq_error.mp h)
    exact ⟨before, item, after, rfl, hbefore, hitem, rfl⟩

lemma assignments_error_iff :
    (∃ e, assignments items = .error e) ↔ ∃ item ∈ items, Malformed item := by
  constructor
  · rintro ⟨e, h⟩
    obtain ⟨before, item, after, rfl, -, hitem, -⟩ := refused_of_error h
    exact ⟨item, List.mem_append_right _ List.mem_cons_self, hitem⟩
  · rintro ⟨item, hmem, hitem⟩
    rcases malformed_cases items with hall | ⟨before, first, after, rfl, hbefore, hfirst⟩
    · exact absurd hitem (hall item hmem)
    · exact ⟨_, map_eq_error.mpr (pairs_of_malformed hbefore hfirst)⟩

lemma lastAssigns_iff (h : ∀ item ∈ items, ¬ Malformed item) : LastAssigns items name value ↔
    ∃ before after, items.map parts = before ++ (name, value) :: after ∧
      name ∉ after.map (·.1) := by
  constructor
  · rintro ⟨before, item, after, rfl, hitem, hlater⟩
    refine ⟨before.map parts, after.map parts, ?_, fun hmem => ?_⟩
    · rw [List.map_append, List.map_cons, parts_of_assigns hitem]
    · rw [List.map_map] at hmem
      obtain ⟨later, hlast, rfl⟩ := List.mem_map.mp hmem
      have hgood := h later (List.mem_append_right _ (List.mem_cons_of_mem _ hlast))
      exact hlater later hlast _ (assigns_parts hgood)
  · -- the pairs are those of the words one by one, so that the words are split where they are
    rintro ⟨before, after, hmap, hafter⟩
    obtain ⟨words, rest, rfl, rfl, hrest⟩ := List.map_eq_append_iff.mp hmap
    obtain ⟨item, later, rfl, hitem, rfl⟩ := List.map_eq_cons_iff.mp hrest
    refine ⟨words, item, later, rfl, ?_, fun word hword other hassigns => hafter ?_⟩
    · have hgood := h item (List.mem_append_right _ List.mem_cons_self)
      simpa only [hitem] using assigns_parts hgood
    · rw [List.map_map]
      exact List.mem_map.mpr ⟨word, hword, congrArg Prod.fst (parts_of_assigns hassigns)⟩

lemma get?_of_assignments {values : Entries String String} (h : assignments items = .ok values) :
    get? name values = some value ↔ LastAssigns items name value := by
  have hall : ∀ item ∈ items, ¬ Malformed item := by
    rcases malformed_cases items with hall | ⟨before, item, after, rfl, hbefore, hitem⟩
    · exact hall
    · cases (map_eq_error.mpr (pairs_of_malformed hbefore hitem)).symm.trans h
  cases (assignments_of_forall hall).symm.trans h
  rw [get?_ofPairs, getLast?_valuesOf, lastAssigns_iff hall]

end Words

section Names

variable {t : Template} {names : List String} {f : String → String} {es : Table}

def itemsFor (names : List String) (f : String → String) : List String :=
  names.map fun name => name ++ "=" ++ f name

def valuesFor (names : List String) (f : String → String) : Entries String String :=
  names.map fun name => (name, f name)

def Holds (es : Table) (names : List String) (f : String → String) : Prop :=
  ∀ name ∈ names, get? (.str name) es = some (.str (f name))

lemma assigns_of_parameter (ht : Made t) {name : String} (h : name ∈ t.parameters.map (·.name))
    (value : String) : Assigns (name ++ "=" ++ value) name value := by
  obtain ⟨v, hv, rfl⟩ := List.mem_map.mp h
  have hspellable := ht.spellable ((firstPerName_sublist [] t.occurrences).subset hv)
  exact ⟨rfl, hspellable.name_ne_empty, fun hmem => hspellable.name _ hmem (by decide)⟩

lemma parts_itemsFor (h : ∀ name ∈ names, Assigns (name ++ "=" ++ f name) name (f name)) :
    (itemsFor names f).map parts = valuesFor names f := by
  rw [itemsFor, valuesFor, List.map_map]
  exact List.map_congr_left fun name hname => parts_of_assigns (h name hname)

lemma assignments_itemsFor (hnodup : names.Nodup)
    (h : ∀ name ∈ names, Assigns (name ++ "=" ++ f name) name (f name)) :
    assignments (itemsFor names f) = .ok (valuesFor names f) := by
  have hgood : ∀ item ∈ itemsFor names f, ¬ Malformed item := by
    intro item hitem
    obtain ⟨name, hname, rfl⟩ := List.mem_map.mp hitem
    exact not_malformed_of_assigns (h name hname)
  have hkeys : (valuesFor names f).map (·.1) = names := by
    rw [valuesFor, List.map_map]
    exact List.map_id names
  rw [assignments_of_forall hgood, parts_itemsFor h, ofPairs_eq_self (by rwa [hkeys])]

lemma holds_valuesFor (names : List String) (f : String → String) :
    Holds ((valuesFor names f).map fun (name, text) => (.str name, .str text)) names f := by
  intro name hname
  induction names with
  | nil => cases hname
  | cons n names ih =>
    by_cases hn : n = name
    · subst hn
      simp [valuesFor, get?]
    · have hkey : (Value.str n == .str name) = false := by
        rw [Bool.eq_false_iff, ne_eq, Value.beq_str_iff]
        exact fun heq => hn (Value.str.inj heq)
      have hmem := (List.mem_cons.mp hname).resolve_left (Ne.symm hn)
      simpa [valuesFor, get?, hkey] using ih hmem

lemma build_of_holds [Idna] (hperm : names.Perm (t.parameters.map (·.name)))
    (hes : Holds es names f) :
    t.build (argumentsOf (valuesFor names f)) = t.build (.map es) := by
  apply build_congr
  intro v hv
  have hname : v.name ∈ names := hperm.mem_iff.mpr (List.mem_map.mpr ⟨v, hv, rfl⟩)
  rw [hes v.name hname]
  exact holds_valuesFor names f v.name hname

end Names

section Executions

variable {s : Surroundings} {words items : List String} {t : Template}
  {values : Entries String String}

/-- The words are read, logging is set up and the template is there, so that it is called with the
assignments. -/
def Reaches (s : Surroundings) (words items : List String) (t : Template) : Prop :=
  ∃ o descriptor, Options.read words = .ok o ∧ o.assignments = items ∧
    (s.log.setup o.logLevel.name?).2 = none ∧ Descriptor.load s.read o.template = .ok descriptor ∧
    Template.ofDescriptor (settingsFor o s.environment) (withFlag o descriptor) = .ok t

def sent : Except Fault Run → List Outgoing
  | .ok run => [run.request]
  | .error _ => []

structure Invokes [Idna] (e : Execution) (s : Surroundings) (t : Template) (arguments : Arguments) :
    Prop where
  requests : e.requests = sent (t.invoke s.answer arguments)
  ending : e.ending = .ofResult (t.invoke s.answer arguments >>= Run.awaited)

lemma invokes_ofDescriptor [Idna] {settings : Settings} {descriptor : Table}
    (ht : Template.ofDescriptor settings descriptor = .ok t) (arguments : Arguments)
    (log : Log.State) :
    Invokes (ofDescriptor settings s arguments log descriptor) s t arguments := by
  obtain ⟨u, hstart, hfill⟩ := bind_eq_ok.mp ht
  rw [ofDescriptor.eq_def, hstart]
  simp only [hfill]
  cases hinvoke : t.invoke s.answer arguments with
  | error f => exact ⟨by rw [hinvoke]; rfl, by rw [hinvoke]; rfl⟩
  | ok run => exact ⟨by rw [hinvoke]; rfl, by rw [hinvoke]; rfl⟩

lemma invokes_of_reaches [Idna] (h : Reaches s words items t)
    (hvalues : assignments items = .ok values) :
    Invokes (ofWords s words) s t (argumentsOf values) := by
  obtain ⟨o, descriptor, hread, rfl, hsetup, hload, ht⟩ := h
  rw [ofWords, hread]
  simp only [ofOptions]
  split
  · next hfault => cases hfault ▸ hsetup
  · rw [hvalues]
    simp only [ofArguments, hload]
    exact invokes_ofDescriptor ht _ _

lemma read_separated (path : String) (h : separator ∉ items) :
    Options.read (separator :: path :: items) = .ok { template := path, assignments := items } := by
  have hsort : sort (separator :: path :: items) = .ok ⟨separator :: path :: items, []⟩ := by
    rw [sort, if_pos rfl]
  have hpositionals : positionals? (separator :: path :: items) = some (path, items) := by
    rw [separator, positionals?, List.erase_of_not_mem h]
  have htaken : ({} : Progress).takeRun (separator :: path :: items) =
      ({} : Progress).found path items := by
    rw [Progress.takeRun, hpositionals]
    rfl
  rw [Options.read, hsort]
  change (Progress.takeRun {} (separator :: path :: items)).takeFlags [] >>= Progress.options = _
  rw [htaken]
  rfl

lemma separator_notMem_itemsFor (names : List String) (f : String → String) :
    separator ∉ itemsFor names f := by
  intro hmem
  obtain ⟨name, -, hitem⟩ := List.mem_map.mp hmem
  have hequals : '=' ∈ (name ++ "=" ++ f name).toList := by simp
  rw [hitem] at hequals
  exact absurd hequals (by decide)

lemma setup_absent (log : Log.State) : (log.setup none).2 = none :=
  (setup_ok_iff log none).mpr (by decide +kernel)

end Executions

theorem words_set_parameters [Idna] (items : List String) (t : Template) (ht : Made t)
    (names : List String) (hperm : names.Perm (t.parameters.map (·.name))) (f : String → String)
    (es : Table) (hes : Holds es names f) :
    (((∃ e, assignments items = .error e) ↔ ∃ item ∈ items, Malformed item) ∧
      ∀ values, assignments items = .ok values →
        ∀ name value, get? name values = some value ↔ LastAssigns items name value) ∧
    assignments (itemsFor names f) = .ok (valuesFor names f) ∧
    t.build (argumentsOf (valuesFor names f)) = t.build (.map es) ∧
    (∀ s words, Reaches s words (itemsFor names f) t → Invokes (ofWords s words) s t (.map es)) ∧
    ∀ s path descriptor, Descriptor.load s.read path = .ok descriptor →
      Template.ofDescriptor (.ofEnvironment s.environment) descriptor = .ok t →
      Reaches s (separator :: path :: itemsFor names f) (itemsFor names f) t := by
  have hnames : (t.parameters.map (·.name)).Nodup := nodup_names_firstPerName [] t.occurrences
  have hassigns : ∀ name ∈ names, Assigns (name ++ "=" ++ f name) name (f name) :=
    fun name hname => assigns_of_parameter ht (hperm.mem_iff.mp hname) (f name)
  have hvalues := assignments_itemsFor (hperm.nodup_iff.mpr hnames) hassigns
  have hbuild := build_of_holds hperm hes
  refine ⟨⟨assignments_error_iff, fun values h name value => get?_of_assignments h⟩, hvalues,
    hbuild, ?_, ?_⟩
  · intro s words hreaches
    have hinvoke : t.invoke s.answer (argumentsOf (valuesFor names f)) =
        t.invoke s.answer (.map es) := by
      rw [Template.invoke, hbuild, Template.invoke]
    obtain ⟨hrequests, hending⟩ := invokes_of_reaches hreaches hvalues
    exact ⟨hinvoke ▸ hrequests, hinvoke ▸ hending⟩
  · intro s path descriptor hload hmade
    exact ⟨_, descriptor, read_separated path (separator_notMem_itemsFor names f), rfl,
      setup_absent s.log, hload, hmade⟩

def oddly (name : String) : String := if name = "-x" then "" else "1=2 \x7by\x7d"

def spaced : String :=
  "\x7b\"url\": \"http://h/\x7ba b\x7d\", \"query\": \x7b\"q\": \"\x7b-x\x7d \x7ba b\x7d\"\x7d\x7d"

open scoped Idna in
theorem spaced_words_set_parameters :
    let s := around spaced
    let es : Table := [(.str "-x", .str ""), (.str "a b", .str (oddly "a b"))]
    LastAssigns ["a=1", "a==2"] "a" "=2" ∧
    ∃ t, Made t ∧ ["-x", "a b"].Perm (t.parameters.map (·.name)) ∧ Holds es ["-x", "a b"] oddly ∧
      Reaches s ["--", "t.json", "-x=", "a b=1=2 \x7by\x7d"] ["-x=", "a b=1=2 \x7by\x7d"] t ∧
      (∃ request, t.build (.map es) = .ok request) ∧
      Invokes (ofWords s ["--", "t.json", "-x=", "a b=1=2 \x7by\x7d"]) s t (.map es) := by
  intro s es
  have hnames : (do
      let descriptor ← Descriptor.load s.read "t.json"
      let t ← Template.ofDescriptor (.ofEnvironment s.environment) descriptor
      let request ← t.build (.map es)
      return t.parameters.map (·.name) : Except Fault (List String)).toOption =
        some ["a b", "-x"] := by decide +kernel
  obtain ⟨descriptor, hload, hrest⟩ := bind_eq_ok.mp (toOption_eq_some.mp hnames)
  obtain ⟨t, ht, hrest⟩ := bind_eq_ok.mp hrest
  obtain ⟨request, hrequest, hparameters⟩ := bind_eq_ok.mp hrest
  have hmade : Made t := @Made.make _ (.map descriptor) .null t ht
  have hperm : ["-x", "a b"].Perm (t.parameters.map (·.name)) := by
    rw [Except.ok.inj hparameters]
    exact .swap _ _ _
  have hholds : Holds es ["-x", "a b"] oddly := by
    rintro name (_ | ⟨_, _ | ⟨_, ⟨⟩⟩⟩) <;> rfl
  obtain ⟨⟨-, hlast⟩, -, -, hinvokes, hreaches⟩ :=
    words_set_parameters ["a=1", "a==2"] t hmade ["-x", "a b"] hperm oddly es hholds
  have hitems : itemsFor ["-x", "a b"] oddly = ["-x=", "a b=1=2 \x7by\x7d"] := by decide +kernel
  have hwords := hreaches s "t.json" descriptor hload ht
  rw [hitems] at hwords hinvokes
  have hassignments : assignments ["a=1", "a==2"] = .ok [("a", "=2")] := by rfl
  exact ⟨(hlast _ hassignments "a" "=2").mp rfl, t, hmade, hperm, hholds, hwords,
    ⟨request, hrequest⟩, hinvokes s _ hwords⟩

end HttpTemplate.CommandLine
