import HttpTemplate.Proofs.Entries
import HttpTemplate.Proofs.Parameters
import HttpTemplate.Session

/-! Calls of operations. A call with as many values as there are names, or fewer, is the invocation
with each name bound to the last of its values, and names and values may change places together. A
call with more values fails before the template is looked at. -/

namespace HttpTemplate.Operations

open Entries Faults Parameters Session

inductive Lists : List Value → List String → Prop
  | apart (names : List String) : Lists (names.map .str) names
  | list (names : List String) : Lists [.list (names.map .str)] names
  | tuple (names : List String) : Lists [.tuple (names.map .str)] names

/-- Each name holds the value at the last of its positions that have one, and no other name holds
anything. -/
def Binds (names : List String) (values : List Value) (es : Table) : Prop :=
  ∀ name x, get? (.str name) es = some x ↔
    ∃ i : ℕ, names[i]? = some name ∧ values[i]? = some x ∧
      ∀ j, i < j → j < values.length → names[j]? ≠ some name

def table (pairs : List (String × Value)) : Table := ofPairs (pairs.map fun e => (.str e.1, e.2))

section Names

variable {given : List Value} {names : List String}

lemma text_str_map (names : List String) : (names.map Value.str).map Value.text = names := by
  rw [List.map_map]
  exact List.map_id names

lemma spread_str_map (names : List String) :
    Operation.spread (names.map .str) = names.map .str := by
  match names with
  | [] => rfl
  | [name] => rfl
  | name :: other :: names => rfl

lemma ofNames_of_lists (h : Lists given names) : Operation.ofNames given = ⟨names⟩ := by
  cases h with
  | apart => rw [Operation.ofNames, spread_str_map, text_str_map]
  | list => exact congrArg Operation.mk (text_str_map names)
  | tuple => exact congrArg Operation.mk (text_str_map names)

end Names

section Tables

variable {names : List String} {values : List Value} {pairs : List (String × Value)} {name : String}
  {x : Value}

lemma get?_table (pairs : List (String × Value)) (name : String) :
    get? (.str name) (table pairs) = (valuesOf name pairs).getLast? := by
  induction pairs using List.reverseRecOn with
  | nil => rfl
  | append_singleton pairs e ih =>
    obtain ⟨n, v⟩ := e
    have hput : table (pairs ++ [(n, v)]) = put (.str n) v (table pairs) := by
      rw [table, List.map_append, List.map_singleton, ofPairs_append_singleton]
      rfl
    rw [hput, valuesOf_append]
    by_cases hn : n = name
    · subst hn
      rw [get?_put_str, valuesOf_singleton_self, List.getLast?_concat]
    · have hkey : Value.str n ≠ .str name := fun heq => hn (Value.str.inj heq)
      rw [get?_put_of_ne_str hkey, ih, valuesOf_singleton_of_ne hn, List.append_nil]

lemma get?_table_eq_some : get? (.str name) (table pairs) = some x ↔
    ∃ before after, pairs = before ++ (name, x) :: after ∧ name ∉ after.map (·.1) := by
  rw [get?_table, getLast?_valuesOf]

lemma get?_table_of_nodup (h : (pairs.map (·.1)).Nodup) :
    get? (.str name) (table pairs) = some x ↔ (name, x) ∈ pairs := by
  rw [get?_table_eq_some]
  constructor
  · rintro ⟨before, after, rfl, -⟩
    exact List.mem_append_right _ List.mem_cons_self
  · intro hmem
    obtain ⟨before, after, rfl⟩ := List.append_of_mem hmem
    rw [List.map_append, List.map_cons] at h
    exact ⟨before, after, rfl, (List.nodup_cons.mp (List.nodup_append.mp h).2.1).1⟩

lemma table_perm {others : List (String × Value)} (h : (pairs.map (·.1)).Nodup)
    (hperm : others.Perm pairs) (name : String) :
    get? (.str name) (table others) = get? (.str name) (table pairs) := by
  have hothers : (others.map (·.1)).Nodup := (hperm.map (·.1)).nodup_iff.mpr h
  apply Option.ext
  intro x
  rw [get?_table_of_nodup hothers, get?_table_of_nodup h, hperm.mem_iff]

lemma binds_table (names : List String) (values : List Value) :
    Binds names values (table (names.zip values)) := by
  intro name x
  rw [get?_table_eq_some]
  constructor
  · rintro ⟨before, after, hzip, hafter⟩
    have hat : (names.zip values)[before.length]? = some (name, x) := by simp [hzip]
    obtain ⟨hname, hx⟩ := List.getElem?_zip_eq_some.mp hat
    refine ⟨before.length, hname, hx, fun j hj hlength hagain => hafter ?_⟩
    obtain ⟨k, rfl⟩ := Nat.exists_eq_add_of_lt hj
    have hlater : (names.zip values)[before.length + k + 1]? =
        some (name, values[before.length + k + 1]) :=
      List.getElem?_zip_eq_some.mpr ⟨hagain, List.getElem?_eq_getElem hlength⟩
    rw [hzip, List.getElem?_append_right (by omega)] at hlater
    have hk : before.length + k + 1 - before.length = k + 1 := by omega
    rw [hk, List.getElem?_cons_succ] at hlater
    exact List.mem_map.mpr ⟨_, List.mem_of_getElem? hlater, rfl⟩
  · rintro ⟨i, hname, hx, hlast⟩
    have hat : (names.zip values)[i]? = some (name, x) :=
      List.getElem?_zip_eq_some.mpr ⟨hname, hx⟩
    obtain ⟨hi, hat⟩ := List.getElem?_eq_some_iff.mp hat
    refine ⟨(names.zip values).take i, (names.zip values).drop (i + 1), ?_, ?_⟩
    · rw [← hat, ← List.drop_eq_getElem_cons hi, List.take_append_drop]
    · intro hmem
      obtain ⟨e, he, rfl⟩ := List.mem_map.mp hmem
      obtain ⟨k, hk⟩ := List.getElem?_of_mem he
      rw [List.getElem?_drop] at hk
      obtain ⟨hagain, hy⟩ := List.getElem?_zip_eq_some.mp hk
      have hlength : i + 1 + k < values.length := (List.getElem?_eq_some_iff.mp hy).1
      exact hlast (i + 1 + k) (by omega) hlength hagain

lemma get?_of_binds {es ds : Table} (h : Binds names values es) (hd : Binds names values ds)
    (name : String) : get? (.str name) es = get? (.str name) ds := by
  apply Option.ext
  intro x
  rw [h name x, hd name x]

end Tables

section Calls

variable {names : List String} {values : List Value}

lemma arguments_of_lt (h : names.length < values.length) :
    (Operation.mk names).arguments values =
      .error (.tooManyValues names.length values.length) := by
  rw [Operation.arguments, Operation.bind, List.length_map, if_pos h]

lemma tableOf_str (pairs : List (String × Value)) :
    Value.tableOf (pairs.map fun e => (.str e.1, e.2)) = .ok (table pairs) := by
  rw [Value.tableOf]
  refine bind_eq_ok.mpr ⟨(), forM_eq_ok.mpr fun e he => ?_, rfl⟩
  obtain ⟨d, -, rfl⟩ := List.mem_map.mp he
  rfl

lemma arguments_of_le (h : values.length ≤ names.length) :
    (Operation.mk names).arguments values = .ok (.map (table (names.zip values))) := by
  have hzip : (names.map Value.str).zip values =
      (names.zip values).map fun e => (.str e.1, e.2) := by
    rw [List.zip_map_left]
    rfl
  rw [Operation.arguments, Operation.bind, List.length_map, if_neg (Nat.not_lt.mpr h), hzip,
    tableOf_str]
  rfl

lemma invoke_congr [Idna] {t : Template} {es ds : Table}
    (h : ∀ name, get? (.str name) es = get? (.str name) ds)
    (answer : Outgoing → Except Fault Response) :
    t.invoke answer (.map es) = t.invoke answer (.map ds) := by
  have hbuild : t.build (.map es) = t.build (.map ds) := build_congr fun v _ => h v.name
  rw [Template.invoke, Template.invoke, hbuild]

end Calls

section Sessions

variable {s : Session} {t : Template} {given values : List Value} {names : List String}
  {delivery : Delivery}

def operating [Idna] (s : Session) (given : List Value) : Session := (s.step (.operation given)).1

lemma step_of_template [Idna] (hs : s.template = some t) (a : Step) :
    s.step a = s.stepWith t a := by
  simp only [step, hs]

lemma operating_eq [Idna] (hs : s.template = some t) (h : Lists given names) :
    operating s given = { s with operation := some (⟨names⟩, none) } := by
  rw [operating, step_of_template hs, ← ofNames_of_lists h]
  rfl

lemma template_operating [Idna] (hs : s.template = some t) (h : Lists given names) :
    (operating s given).template = some t := by
  rw [operating_eq hs h]
  exact hs

lemma step_call [Idna] (hs : s.template = some t) (h : Lists given names) :
    (operating s given).step (.call values delivery) =
      (operating s given, deliver delivery
        (((Operation.mk names).arguments values).bind (t.invoke s.answer))) := by
  rw [step_of_template (template_operating hs h), operating_eq hs h]
  rfl

lemma step_invoke [Idna] (hs : s.template = some t) (h : Lists given names)
    (arguments : Arguments) :
    (operating s given).step (.invoke arguments delivery) =
      (operating s given, deliver delivery (t.invoke s.answer arguments)) := by
  rw [step_of_template (template_operating hs h), operating_eq hs h]
  rfl

lemma call_of_lt [Idna] (hs : s.template = some t) (h : Lists given names)
    (hlength : names.length < values.length) :
    (operating s given).step (.call values delivery) =
      (operating s given, {
        result := .fault (.tooManyValues names.length values.length), sent := [], log := [] }) := by
  rw [step_call hs h, arguments_of_lt hlength]
  rfl

lemma call_of_le [Idna] (hs : s.template = some t) (h : Lists given names)
    (hlength : values.length ≤ names.length) {es : Table} (hes : Binds names values es) :
    (operating s given).step (.call values delivery) =
      (operating s given).step (.invoke (.map es) delivery) := by
  have hinvoke := invoke_congr (t := t) (get?_of_binds (binds_table names values) hes) s.answer
  rw [step_call hs h, step_invoke hs h, arguments_of_le hlength, ← hinvoke]
  rfl

lemma call_of_perm [Idna] (hs : s.template = some t) (h : Lists given names) (hnames : names.Nodup)
    (hlength : values.length = names.length) {given' values' : List Value} {names' : List String}
    (h' : Lists given' names') (hlength' : values'.length = names'.length)
    (hperm : (names'.zip values').Perm (names.zip values)) :
    ((operating s given').step (.call values' delivery)).2 =
      ((operating s given).step (.call values delivery)).2 := by
  have hfirst : (names.zip values).map (·.1) = names := List.map_fst_zip (Nat.le_of_eq hlength.symm)
  have hinvoke := invoke_congr (t := t) (table_perm (by rwa [hfirst]) hperm) s.answer
  rw [step_call hs h, step_call hs h', arguments_of_le (Nat.le_of_eq hlength),
    arguments_of_le (Nat.le_of_eq hlength')]
  exact congrArg (deliver delivery) hinvoke

end Sessions

theorem call_binds_names [Idna] (s : Session) (t : Template) (hs : s.template = some t)
    (given values : List Value) (names : List String) (h : Lists given names)
    (delivery : Delivery) :
    (names.length < values.length →
      (operating s given).step (.call values delivery) =
        (operating s given, {
          result := .fault (.tooManyValues names.length values.length)
          sent := [], log := [] })) ∧
    (values.length ≤ names.length →
      (∃ es, Binds names values es) ∧
      ∀ es, Binds names values es →
        (operating s given).step (.call values delivery) =
          (operating s given).step (.invoke (.map es) delivery)) ∧
    (names.Nodup → values.length = names.length →
      ∀ (given' values' : List Value) (names' : List String), Lists given' names' →
        values'.length = names'.length → (names'.zip values').Perm (names.zip values) →
        ((operating s given').step (.call values' delivery)).2 =
          ((operating s given).step (.call values delivery)).2) := by
  refine ⟨call_of_lt hs h, fun hlength => ⟨⟨_, binds_table names values⟩, ?_⟩, ?_⟩
  · exact fun es hes => call_of_le hs h hlength hes
  · intro hnames hlength given' values' names' h' hlength' hperm
    exact call_of_perm hs h hnames hlength h' hlength' hperm

def searching : Session where
  client := some (.other
    (fun _ => .ok { ok := .bool true, status := .int 200, text := .str "hi" }) true)
  settings := { timeout := .int 10 }
  template := some search

open scoped Idna in
theorem search_call_binds_names :
    let names := ["id", "q", "id"]
    let given := names.map Value.str
    let three : List Value := [.int 7, .str "x", .int 8]
    let four := three ++ [.null]
    let es : Table := [(.str "id", .int 8), (.str "q", .str "x")]
    searching.template = some search ∧
    (Lists given names ∧ names.length < four.length ∧
      (operating searching given).step (.call four .awaited) =
        (operating searching given,
          { result := .fault (.tooManyValues 3 4), sent := [], log := [] })) ∧
    (Lists [.tuple given] names ∧ three.length ≤ names.length ∧ Binds names three es ∧
      (operating searching [.tuple given]).step (.call three .awaited) =
        (operating searching [.tuple given]).step (.invoke (.map es) .awaited)) ∧
    (Lists [.str "id", .str "q"] ["id", "q"] ∧ ["id", "q"].Nodup ∧
      Lists [.list [.str "q", .str "id"]] ["q", "id"] ∧
      (["q", "id"].zip [.str "x", .int 7]).Perm (["id", "q"].zip [Value.int 7, .str "x"]) ∧
      ((operating searching [.list [.str "q", .str "id"]]).step
          (.call [.str "x", .int 7] (.callback none))).2 =
        ((operating searching [.str "id", .str "q"]).step
          (.call [.int 7, .str "x"] (.callback none))).2) := by
  intro names given three four es
  have hbinds : Binds names three es := binds_table names three
  have happart : Lists [.str "id", .str "q"] ["id", "q"] := .apart ["id", "q"]
  have hlist : Lists [.list [.str "q", .str "id"]] ["q", "id"] := .list ["q", "id"]
  have hnodup : ["id", "q"].Nodup := by decide
  have hperm : (["q", "id"].zip [.str "x", .int 7]).Perm
      (["id", "q"].zip [Value.int 7, .str "x"]) := .swap _ _ _
  obtain ⟨hmore, -, -⟩ :=
    call_binds_names searching search rfl given four names (.apart names) .awaited
  obtain ⟨-, hfewer, -⟩ :=
    call_binds_names searching search rfl [.tuple given] three names (.tuple names) .awaited
  obtain ⟨-, -, hswapped⟩ :=
    call_binds_names searching search rfl _ [.int 7, .str "x"] _ happart (.callback none)
  exact ⟨rfl, ⟨.apart names, by decide, hmore (by decide)⟩,
    ⟨.tuple names, by decide, hbinds, (hfewer (by decide)).2 es hbinds⟩,
    happart, hnodup, hlist, hperm, hswapped hnodup rfl _ _ _ hlist rfl hperm⟩

end HttpTemplate.Operations
