import HttpTemplate.CommandLine.Assignments
import HttpTemplate.Proofs.Faults
import HttpTemplate.Proofs.Text.Split

/-! Command lines in their usual form: a template and its assignments, with any settings before and
after them. They are read as what they say, the last of several levels counting. -/

namespace HttpTemplate.CommandLine

open Faults

def IsPlain (word : String) : Prop := word ≠ separator ∧ Flag.ofWord word = .ok none

def IsName (name : String) : Prop :=
  '=' ∉ name.toList ∧ ∃ c s, name.toList = c :: s ∧ c ≠ '-'

inductive Setting where
  | fullResponse
  | ignoreCertificates
  | joinedLevel (name : String)
  | level (name : String)

namespace Setting

def words : Setting → List String
  | fullResponse => [Switch.fullResponse.name]
  | ignoreCertificates => [Switch.ignoreCertificates.name]
  | joinedLevel name => [Switch.logLevel.name ++ "=" ++ name]
  | level name => [Switch.logLevel.name, name]

def Proper : Setting → Prop
  | level name => IsPlain name
  | _ => True

def flag : Setting → Flag
  | fullResponse => .named .fullResponse none
  | ignoreCertificates => .named .ignoreCertificates none
  | joinedLevel name => .named .logLevel (some name)
  | level _ => .named .logLevel none

def operands : Setting → List String
  | level name => [name]
  | _ => []

end Setting

namespace Progress

def take (p : Progress) : Setting → Progress
  | .fullResponse => { p with fullResponse := true }
  | .ignoreCertificates => { p with ignoreCertificates := true }
  | .joinedLevel name => p.setLevel (if name = separator then .emptied else .named name)
  | .level name => p.setLevel (.named name)

def found (p : Progress) (template : String) (items : List String) : Progress :=
  { p with positionals := some (template, items) }

def finish (p : Progress) (d : Sorted) : Except Stop Progress := (p.takeRun d.run).takeFlags d.flags

end Progress

structure Line where
  before : List Setting := []
  template : String
  items : List (String × String) := []
  after : List Setting := []
  plain : IsPlain template
  named : ∀ e ∈ items, IsName e.1
  proper : ∀ s ∈ before ++ after, s.Proper

namespace Line

def item (e : String × String) : String := e.1 ++ "=" ++ e.2

def words (l : Line) : List String :=
  l.before.flatMap Setting.words ++ (l.template :: l.items.map item) ++
    l.after.flatMap Setting.words

def options (l : Line) : Options :=
  let p := (l.before ++ l.after).foldl Progress.take {}
  ⟨l.template, l.items.map item, p.fullResponse, p.ignoreCertificates, p.logLevel⟩

end Line

section Words

variable {word : String} {rest : List String} {d : Sorted} {f : Flag}

lemma sort_plain (h : IsPlain word) (hrest : sort rest = .ok d) :
    sort (word :: rest) = .ok ⟨word :: d.run, d.flags⟩ := by
  rw [sort, if_neg h.1, h.2, hrest]
  rfl

lemma sort_plains {words : List String} (h : ∀ word ∈ words, IsPlain word)
    (hrest : sort rest = .ok d) : sort (words ++ rest) = .ok ⟨words ++ d.run, d.flags⟩ := by
  induction words with
  | nil => exact hrest
  | cons word words ih =>
    exact sort_plain (h word List.mem_cons_self) (ih fun w hw => h w (List.mem_cons_of_mem _ hw))

lemma sort_flag (hne : word ≠ separator) (h : Flag.ofWord word = .ok (some f))
    (hrest : sort rest = .ok d) : sort (word :: rest) = .ok ⟨[], (f, d.run) :: d.flags⟩ := by
  rw [sort, if_neg hne, h, hrest]
  rfl

lemma joined_toList (level : String) :
    (Switch.logLevel.name ++ "=" ++ level).toList =
      Switch.logLevel.name.toList ++ '=' :: level.toList := by
  simp

lemma ofWord_joined (level : String) :
    Flag.ofWord (Switch.logLevel.name ++ "=" ++ level) =
      .ok (some (.named .logLevel (some level))) := by
  have hname : '=' ∉ Switch.logLevel.name.toList := by decide
  have hcandidates : Switch.candidates Switch.logLevel.name.toList = [.logLevel] := by decide
  have hofName : ∀ tail, Flag.ofName (Switch.logLevel.name ++ "=" ++ level) tail =
      .ok (some (.named .logLevel (some level))) := by
    intro tail
    simp only [Flag.ofName, joined_toList, Text.splitFirst_append hname, hcandidates]
    simp
  rw [Flag.ofWord, joined_toList]
  exact hofName _

lemma joined_ne_separator (level : String) :
    Switch.logLevel.name ++ "=" ++ level ≠ separator := by
  intro h
  have htext := congrArg String.toList h
  rw [joined_toList] at htext
  cases htext

lemma sort_setting {s : Setting} (hs : s.Proper) (hrest : sort rest = .ok d) :
    sort (s.words ++ rest) = .ok ⟨[], (s.flag, s.operands ++ d.run) :: d.flags⟩ := by
  cases s with
  | fullResponse => exact sort_flag (by decide) rfl hrest
  | ignoreCertificates => exact sort_flag (by decide) rfl hrest
  | joinedLevel name => exact sort_flag (joined_ne_separator name) (ofWord_joined name) hrest
  | level name => exact sort_flag (by decide) rfl (sort_plain hs hrest)

end Words

section Settings

variable {p : Progress} {d : Sorted} {rest : List String}

lemma takeRun_nil (p : Progress) : p.takeRun [] = p := by
  rw [Progress.takeRun]
  split
  · next h => cases h
  · rw [List.append_nil]

lemma takeFlag_setting {s : Setting} (hs : s.Proper) (run : List String) :
    p.takeFlag (s.operands ++ run) s.flag = .ok (p.take s, run) := by
  cases s with
  | level name =>
    have hne : name ≠ separator := hs.1
    simp only [Setting.operands, Setting.flag, Progress.takeFlag, Progress.takeLevel,
      List.singleton_append, if_neg hne, Progress.take]
  | _ => rfl

lemma finish_setting {s : Setting} (hs : s.Proper) :
    p.finish ⟨[], (s.flag, s.operands ++ d.run) :: d.flags⟩ = (p.take s).finish d := by
  rw [Progress.finish, takeRun_nil, Progress.takeFlags, takeFlag_setting hs]
  rfl

lemma sort_settings {settings : List Setting} (hs : ∀ s ∈ settings, s.Proper)
    (hrest : sort rest = .ok d) :
    ∃ e, sort (settings.flatMap Setting.words ++ rest) = .ok e ∧
      (∀ p : Progress, p.finish e = (settings.foldl Progress.take p).finish d) ∧
      (d.run = [] → e.run = []) := by
  induction settings with
  | nil => exact ⟨d, hrest, fun _ => rfl, id⟩
  | cons s settings ih =>
    obtain ⟨e, he, hfinish, -⟩ := ih fun t ht => hs t (List.mem_cons_of_mem s ht)
    have hproper := hs s List.mem_cons_self
    refine ⟨⟨[], (s.flag, s.operands ++ e.run) :: e.flags⟩, ?_, fun p => ?_, fun _ => rfl⟩
    · rw [List.flatMap_cons, List.append_assoc]
      exact sort_setting hproper he
    · rw [finish_setting hproper, hfinish]
      rfl

lemma positionals_take (p : Progress) (s : Setting) : (p.take s).positionals = p.positionals := by
  cases s <;> rfl

lemma unrecognized_take (p : Progress) (s : Setting) :
    (p.take s).unrecognized = p.unrecognized := by
  cases s <;> rfl

lemma foldl_take_fields (settings : List Setting) (p : Progress) :
    (settings.foldl Progress.take p).positionals = p.positionals ∧
      (settings.foldl Progress.take p).unrecognized = p.unrecognized := by
  induction settings generalizing p with
  | nil => exact ⟨rfl, rfl⟩
  | cons s settings ih =>
    rw [List.foldl_cons, ← positionals_take p s, ← unrecognized_take p s]
    exact ih _

lemma foldl_take_found (settings : List Setting) (p : Progress) (template : String)
    (items : List String) :
    settings.foldl Progress.take (p.found template items) =
      (settings.foldl Progress.take p).found template items := by
  induction settings generalizing p with
  | nil => rfl
  | cons s settings ih =>
    have hs : (p.found template items).take s = (p.take s).found template items := by
      cases s <;> rfl
    rw [List.foldl_cons, hs, ih, List.foldl_cons]

end Settings

section Items

variable {e : String × String} {es : List (String × String)}

lemma item_toList (e : String × String) :
    (Line.item e).toList = e.1.toList ++ '=' :: e.2.toList := by
  simp [Line.item]

lemma plain_of_head {word : String} {c : Char} {s : List Char} (h : word.toList = c :: s)
    (hc : c ≠ '-') : IsPlain word := by
  constructor
  · rintro rfl
    cases h
    exact hc rfl
  · rw [Flag.ofWord.eq_def, h]
    split <;> simp_all

lemma plain_item (h : IsName e.1) : IsPlain (Line.item e) := by
  obtain ⟨-, c, s, hs, hc⟩ := h
  exact plain_of_head (by rw [item_toList, hs, List.cons_append]) hc

lemma assignment_item (hne : e.1 ≠ "") (hequals : '=' ∉ e.1.toList) :
    assignment (Line.item e) = .ok e := by
  have hempty : e.1.toList.isEmpty = false := by simpa using hne
  rw [assignment, item_toList, Text.splitFirst_append hequals]
  simp only [hempty, String.ofList_toList]
  rfl

lemma positionals_plain {template : String} {words : List String} (h : IsPlain template)
    (hwords : ∀ word ∈ words, IsPlain word) :
    positionals? (template :: words) = some (template, words) := by
  have hmem : separator ∉ words := fun hs => (hwords _ hs).1 rfl
  have herase : words.erase separator = words := List.erase_of_not_mem hmem
  rw [positionals?.eq_def]
  split
  · next heq => cases heq
  · next heq =>
    cases heq
    exact absurd rfl h.1
  · next heq =>
    cases heq
    exact absurd rfl h.1
  · next heq =>
    cases heq
    exact absurd List.mem_cons_self hmem
  · next heq =>
    cases heq
    rw [herase]

end Items

section Lines

variable (l : Line)

lemma options_found {p : Progress} {template : String} {items : List String}
    (h : p.unrecognized = []) :
    (p.found template items).options =
      .ok ⟨template, items, p.fullResponse, p.ignoreCertificates, p.logLevel⟩ := by
  simp only [Progress.options, Progress.found, h]

lemma takeRun_plain {p : Progress} (h : p.positionals = none) {template : String}
    {items : List String} (hplain : IsPlain template) (hitems : ∀ word ∈ items, IsPlain word) :
    p.takeRun (template :: items) = p.found template items := by
  rw [Progress.takeRun, h, positionals_plain hplain hitems]
  rfl

lemma sort_final {settings : List Setting} (hs : ∀ s ∈ settings, s.Proper) :
    ∃ d, sort (settings.flatMap Setting.words) = .ok d ∧ d.run = [] ∧
      ∀ p : Progress, p.takeFlags d.flags = .ok (settings.foldl Progress.take p) := by
  have hempty : sort [] = .ok ⟨[], []⟩ := rfl
  obtain ⟨d, hd, hfinish, hrun⟩ := sort_settings hs hempty
  rw [List.append_nil] at hd
  refine ⟨d, hd, hrun rfl, fun p => ?_⟩
  have h := hfinish p
  rw [Progress.finish, hrun rfl, takeRun_nil] at h
  rw [h]
  exact congrArg Except.ok (takeRun_nil _)

lemma plain_items {word : String} (h : word ∈ l.items.map Line.item) : IsPlain word := by
  obtain ⟨e, he, rfl⟩ := List.mem_map.mp h
  exact plain_item (l.named e he)

lemma read_words : Options.read l.words = .ok l.options := by
  obtain ⟨d, hd, hrun, hflags⟩ := sort_final fun s hs => l.proper s (List.mem_append_right _ hs)
  have hplain : ∀ word ∈ l.template :: l.items.map Line.item, IsPlain word :=
    List.forall_mem_cons.mpr ⟨l.plain, fun _ => plain_items l⟩
  obtain ⟨e, he, hfinish, -⟩ :=
    sort_settings (fun s hs => l.proper s (List.mem_append_left _ hs)) (sort_plains hplain hd)
  have hsort : sort l.words = .ok e := by
    rw [Line.words, List.append_assoc]
    exact he
  have hprogress : Progress.finish {} e = .ok (((l.before ++ l.after).foldl Progress.take {}).found
      l.template (l.items.map Line.item)) := by
    rw [hfinish, Progress.finish, hrun, List.append_nil,
      takeRun_plain (foldl_take_fields l.before {}).1 l.plain fun _ => plain_items l, hflags,
      foldl_take_found, List.foldl_append]
  have hread : Options.read l.words = Progress.finish {} e >>= Progress.options := by
    rw [Options.read, hsort]
    rfl
  rw [hread, hprogress]
  exact options_found (foldl_take_fields (l.before ++ l.after) {}).2

end Lines

end HttpTemplate.CommandLine
