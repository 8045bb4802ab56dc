import HttpTemplate.Proofs.Entries
import HttpTemplate.Proofs.Json.Documents
import HttpTemplate.Proofs.Json.Scalars
import HttpTemplate.Proofs.Json.Strings

/-! Values that are read back from their JSON text, in every format that puts only space around its
marks. Lists and objects are read by one argument about sequences between marks. -/

namespace HttpTemplate.Json

open Faults

/-- Values of JSON without real numbers. Whole numbers have no more digits than a numeral may have,
and the members of an object have names of their own. -/
inductive Plain : Value → Prop
  | null : Plain .null
  | bool (b : Bool) : Plain (.bool b)
  | int {n : Int} : (Nat.toDigits 10 n.natAbs).length ≤ Numeral.maxDigits → Plain (.int n)
  | str (s : String) : Plain (.str s)
  | list {vs : List Value} : (∀ v ∈ vs, Plain v) → Plain (.list vs)
  | map {es : List (Value × Value)} :
      (∀ e ∈ es, ∃ name, e.1 = .str name) → (Entries.keys es).Nodup → (∀ e ∈ es, Plain e.2) →
      Plain (.map es)

def IsSpaces (s : List Char) : Prop := ∀ c ∈ s, isSpace c = true

structure Spaced (s : Spacing) : Prop where
  before : ∀ depth, IsSpaces (s.before depth).toList
  between : ∀ depth, ∃ space, (s.between depth).toList = ',' :: space ∧ IsSpaces space
  after : ∀ depth, IsSpaces (s.after depth).toList

def Begins (s : List Char) : Prop :=
  ∃ c t, s = c :: t ∧ isSpace c = false ∧ c ≠ ']' ∧ c ≠ '}' ∧ c ≠ '\ufeff'

section Space

variable {c : Char} {s t rest : List Char}

lemma skipSpace_append (h : IsSpaces s) (t : List Char) : skipSpace (s ++ t) = skipSpace t :=
  List.dropWhile_append_of_pos h

lemma skipSpace_cons (h : isSpace c = false) (t : List Char) : skipSpace (c :: t) = c :: t := by
  simp [skipSpace, h]

lemma Begins.append (h : Begins s) (t : List Char) : Begins (s ++ t) := by
  obtain ⟨c, s, rfl, hc⟩ := h
  exact ⟨c, s ++ t, rfl, hc⟩

lemma Begins.skipSpace_append (h : Begins s) (ht : IsSpaces t) (rest : List Char) :
    skipSpace (t ++ (s ++ rest)) = s ++ rest := by
  obtain ⟨c, s, rfl, hc, -⟩ := h
  rw [Json.skipSpace_append ht]
  exact skipSpace_cons hc _

lemma ended_cons (hc : isSpace c = true ∨ c = ',' ∨ c = ']' ∨ c = '}') : Ended (c :: t) := by
  rintro d ⟨⟩
  rcases hc with hc | rfl | rfl | rfl
  · simp only [isSpace, Bool.or_eq_true, beq_iff_eq] at hc
    rcases hc with ((rfl | rfl) | rfl) | rfl <;> decide
  all_goals decide

lemma ended_spaces (hs : IsSpaces s) (hc : c = ',' ∨ c = ']' ∨ c = '}') :
    Ended (s ++ c :: rest) := by
  cases s with
  | nil => exact ended_cons (.inr hc)
  | cons d s => exact ended_cons (.inl (hs d List.mem_cons_self))

end Space

section Sequences

variable {α : Type} {close : Char} {read : Nat → List Char → Reading (List α × List Char)}
  {one : α → List Char → Prop}

/-- A reader of things that go on after a comma and end with the closing mark. -/
structure Sequential (close : Char) (read : Nat → List Char → Reading (List α × List Char))
    (one : α → List Char → Prop) : Prop where
  begins : ∀ {a t}, one a t → Begins t
  last : ∀ {a t fuel r rest}, one a t → 2 * t.length ≤ fuel → Ended r →
    skipSpace r = close :: rest → read (fuel + 1) (t ++ r) = .ok ([a], rest)
  next : ∀ {a t fuel r u as rest}, one a t → 2 * t.length ≤ fuel → Ended r →
    skipSpace r = ',' :: u → read fuel (skipSpace u) = .ok (as, rest) →
    read (fuel + 1) (t ++ r) = .ok (a :: as, rest)

lemma Sequential.begins_joined (h : Sequential close read one) {as : List α} {ts : List (List Char)}
    (hts : List.Forall₂ one as ts) (hne : ts ≠ []) (sep : List Char) :
    Begins (sep.intercalate ts) := by
  cases hts with
  | nil => exact absurd rfl hne
  | @cons a t as ts ht hts =>
    cases hts with
    | nil => exact List.intercalate_singleton ▸ h.begins ht
    | cons =>
      rw [List.intercalate_cons_cons, List.append_assoc]
      exact (h.begins ht).append _

lemma Sequential.read_joined (h : Sequential close read one) {space r rest : List Char}
    (hspace : IsSpaces space) (hr : Ended r) (hclose : skipSpace r = close :: rest) {as : List α}
    {ts : List (List Char)} (hts : List.Forall₂ one as ts) (hne : ts ≠ []) {fuel : Nat}
    (hfuel : 2 * ((',' :: space).intercalate ts).length + 1 ≤ fuel) :
    read fuel ((',' :: space).intercalate ts ++ r) = .ok (as, rest) := by
  induction hts generalizing fuel with
  | nil => exact absurd rfl hne
  | @cons a t as ts ht hts ih =>
    obtain ⟨fuel, rfl⟩ : ∃ n, fuel = n + 1 := ⟨fuel - 1, by omega⟩
    cases hts with
    | nil =>
      rw [List.intercalate_singleton] at hfuel ⊢
      exact h.last ht (by omega) hr hclose
    | @cons b t' bs ts' hb htail =>
      have hbegins := h.begins_joined (.cons hb htail) (List.cons_ne_nil _ _) (',' :: space)
      rw [List.intercalate_cons_cons] at hfuel ⊢
      simp only [List.length_append, List.length_cons] at hfuel
      simp only [List.append_assoc, List.cons_append]
      apply h.next ht (by omega) (ended_cons (.inr (.inl rfl))) (skipSpace_cons rfl _)
      rw [hbegins.skipSpace_append hspace]
      exact ih (List.cons_ne_nil _ _) (by omega)

end Sequences

/-- The text is read as the value, whatever text follows that does not go on with a number. -/
structure ReadsAs (v : Value) (t : List Char) : Prop where
  begins : Begins t
  read : ∀ {fuel rest}, 2 * t.length ≤ fuel → Ended rest →
    readValue fuel (t ++ rest) = .ok (v, rest)

def MemberReadsAs (e : Value × Value) (t : List Char) : Prop :=
  ∃ name u, e.1 = .str name ∧ t = (string name).toList ++ ':' :: ' ' :: u ∧ ReadsAs e.2 u

section Values

variable {v : Value} {t rest : List Char} {fuel : Nat}

lemma begins_string (s : String) : Begins (string s).toList :=
  ⟨'\x22', _, string_toList s, rfl, by decide, by decide, by decide⟩

lemma readsAs_of_succ (hbegins : Begins t)
    (h : ∀ {fuel rest}, 2 * t.length ≤ fuel + 1 → Ended rest →
      readValue (fuel + 1) (t ++ rest) = .ok (v, rest)) : ReadsAs v t where
  begins := hbegins
  read := by
    intro fuel rest hfuel hrest
    obtain ⟨c, t, rfl, -⟩ := hbegins
    obtain ⟨n, rfl⟩ : ∃ n, fuel = n + 1 :=
      ⟨fuel - 1, by simp only [List.length_cons] at hfuel; omega⟩
    exact h hfuel hrest

lemma readsAs_scalar {c : Char} (hbegins : Begins (c :: t)) (hquote : c ≠ '\x22') (hlist : c ≠ '[')
    (hmap : c ≠ '{') (h : ∀ {rest}, Ended rest → scalar (c :: t ++ rest) = .ok (v, rest)) :
    ReadsAs v (c :: t) := by
  apply readsAs_of_succ hbegins
  intro fuel rest _ hrest
  rw [List.cons_append, readValue]
  · exact h hrest
  · rintro t ⟨⟩
    exact hquote rfl
  · rintro t ⟨⟩
    exact hlist rfl
  · rintro t ⟨⟩
    exact hmap rfl

lemma readsAs_string (s : String) : ReadsAs (.str s) (string s).toList := by
  apply readsAs_of_succ (begins_string s)
  intro fuel rest _ _
  simp only [string_toList, List.cons_append, List.append_assoc, List.nil_append, readValue,
    readString_escaped]
  rfl

end Values

section Readers

lemma sequential_items : Sequential ']' readItems ReadsAs where
  begins h := h.begins
  last h hfuel hr hclose := by
    rw [readItems, h.read hfuel hr]
    simp only [bind, Except.bind, hclose]
    rfl
  next h hfuel hr hcomma hrest := by
    rw [readItems, h.read hfuel hr]
    simp only [bind, Except.bind, hcomma, hrest]
    rfl

lemma MemberReadsAs.begins {e : Value × Value} {t : List Char} (h : MemberReadsAs e t) :
    Begins t := by
  obtain ⟨name, u, -, rfl, -⟩ := h
  exact (begins_string name).append _

lemma MemberReadsAs.read {e : Value × Value} {t : List Char} (h : MemberReadsAs e t) {fuel : Nat}
    {r : List Char} (hfuel : 2 * t.length ≤ fuel) (hr : Ended r) :
    ∃ name s u, e = (.str name, e.2) ∧ t ++ r = '\x22' :: s ∧
      readString s = .ok (name, ':' :: u) ∧ readValue fuel (skipSpace u) = .ok (e.2, r) := by
  obtain ⟨k, v⟩ := e
  obtain ⟨name, u, rfl, rfl, hu⟩ := h
  have hspace : skipSpace (' ' :: (u ++ r)) = u ++ r :=
    hu.begins.skipSpace_append (t := [' ']) (by simp [IsSpaces, isSpace]) r
  refine ⟨name, name.toList.flatMap escapeChar ++ '\x22' :: ':' :: ' ' :: (u ++ r), ' ' :: (u ++ r),
    rfl, ?_, readString_escaped name _, ?_⟩
  · simp [string_toList]
  · rw [hspace]
    apply hu.read _ hr
    simp only [List.length_append, List.length_cons] at hfuel
    omega

lemma sequential_members : Sequential '}' readMembers MemberReadsAs where
  begins h := h.begins
  last h hfuel hr hclose := by
    obtain ⟨name, s, u, he, hs, hname, hread⟩ := h.read hfuel hr
    have hcolon : skipSpace (':' :: u) = ':' :: u := skipSpace_cons rfl u
    rw [he, hs, readMembers]
    simp only [bind, Except.bind, hname, hcolon, hread, hclose]
    rfl
  next h hfuel hr hcomma hrest := by
    obtain ⟨name, s, u, he, hs, hname, hread⟩ := h.read hfuel hr
    have hcolon : skipSpace (':' :: u) = ':' :: u := skipSpace_cons rfl u
    rw [he, hs, readMembers]
    simp only [bind, Except.bind, hname, hcolon, hread, hcomma, hrest]
    rfl

lemma readValue_list {fuel : Nat} {t s rest : List Char} {vs : List Value} (ht : skipSpace t = s)
    (hs : Begins s) (h : readItems fuel s = .ok (vs, rest)) :
    readValue (fuel + 1) ('[' :: t) = .ok (.list vs, rest) := by
  obtain ⟨c, s, rfl, -, hbracket, -⟩ := hs
  rw [readValue, ht]
  split
  · next heq => exact absurd (List.cons.inj heq).1 hbracket
  · rw [h]
    rfl

lemma readValue_map {fuel : Nat} {t s rest : List Char} {es : List (Value × Value)}
    (ht : skipSpace t = s) (hs : Begins s) (h : readMembers fuel s = .ok (es, rest)) :
    readValue (fuel + 1) ('{' :: t) = .ok (.map (Entries.ofPairs es), rest) := by
  obtain ⟨c, s, rfl, -, -, hbrace, -⟩ := hs
  rw [readValue, ht]
  split
  · next heq => exact absurd (List.cons.inj heq).1 hbrace
  · rw [h]
    rfl

section Containers

variable {before space after : List Char} {ts : List (List Char)}

def enclosed (opening close : Char) (before space after : List Char) (ts : List (List Char)) :
    List Char :=
  opening :: (before ++ ((',' :: space).intercalate ts ++ (after ++ [close])))

lemma enclosed_append (opening close : Char) (before space after : List Char)
    (ts : List (List Char)) (rest : List Char) :
    enclosed opening close before space after ts ++ rest =
      opening :: (before ++ ((',' :: space).intercalate ts ++ (after ++ close :: rest))) := by
  simp [enclosed]

lemma length_enclosed (opening close : Char) (before space after : List Char)
    (ts : List (List Char)) :
    ((',' :: space).intercalate ts).length + 2 ≤
      (enclosed opening close before space after ts).length := by
  simp only [enclosed, List.length_cons, List.length_append, List.length_nil]
  omega

variable (hbefore : IsSpaces before) (hspace : IsSpaces space) (hafter : IsSpaces after)
  (hne : ts ≠ [])

include hbefore hspace hafter hne

lemma Sequential.read_enclosed {α : Type} {opening close : Char}
    {read : Nat → List Char → Reading (List α × List Char)} {one : α → List Char → Prop}
    (h : Sequential close read one) (hclose : close = ']' ∨ close = '}') {as : List α}
    (hts : List.Forall₂ one as ts) {fuel : Nat}
    (hfuel : 2 * (enclosed opening close before space after ts).length ≤ fuel + 1)
    (rest : List Char) :
    ∃ t s, enclosed opening close before space after ts ++ rest = opening :: t ∧
      skipSpace t = s ∧ Begins s ∧ read fuel s = .ok (as, rest) := by
  have hlength := length_enclosed opening close before space after ts
  have hbegins := h.begins_joined hts hne (',' :: space)
  have hended : Ended (after ++ close :: rest) := ended_spaces hafter (.inr hclose)
  have hend : skipSpace (after ++ close :: rest) = close :: rest := by
    rw [skipSpace_append hafter]
    rcases hclose with rfl | rfl <;> exact skipSpace_cons rfl rest
  exact ⟨_, _, enclosed_append .., hbegins.skipSpace_append hbefore _, hbegins.append _,
    h.read_joined hspace hended hend hts hne (by omega)⟩

lemma readsAs_list {vs : List Value} (hts : List.Forall₂ ReadsAs vs ts) :
    ReadsAs (.list vs) (enclosed '[' ']' before space after ts) := by
  have hbegins : Begins (enclosed '[' ']' before space after ts) := ⟨'[', _, rfl, by decide⟩
  apply readsAs_of_succ hbegins
  intro fuel rest hfuel _
  obtain ⟨t, s, heq, ht, hs, hread⟩ := sequential_items.read_enclosed hbefore hspace hafter hne
    (.inl rfl) hts hfuel rest
  rw [heq]
  exact readValue_list ht hs hread

lemma readsAs_map {es : List (Value × Value)} (hes : Entries.ofPairs es = es)
    (hts : List.Forall₂ MemberReadsAs es ts) :
    ReadsAs (.map es) (enclosed '{' '}' before space after ts) := by
  have hbegins : Begins (enclosed '{' '}' before space after ts) := ⟨'{', _, rfl, by decide⟩
  apply readsAs_of_succ hbegins
  intro fuel rest hfuel _
  obtain ⟨t, s, heq, ht, hs, hread⟩ := sequential_members.read_enclosed hbefore hspace hafter hne
    (.inr rfl) hts hfuel rest
  rw [heq, readValue_map ht hs hread, hes]

end Containers

lemma readsAs_emptyList : ReadsAs (.list []) ['[', ']'] :=
  readsAs_of_succ ⟨'[', _, rfl, by decide⟩ fun _ _ => rfl

lemma readsAs_emptyMap : ReadsAs (.map []) ['{', '}'] :=
  readsAs_of_succ ⟨'{', _, rfl, by decide⟩ fun _ _ => rfl

end Readers

section Writing

variable {f : Format} {depth : Nat}

lemma wrap_nil (s : Spacing) (opening closing : String) :
    (wrap s depth opening closing []).toList = opening.toList ++ closing.toList := by
  simp [wrap]

lemma wrap_toList {s : Spacing} {space : List Char}
    (hspace : (s.between depth).toList = ',' :: space) {opening closing : String} {o c : Char}
    (ho : opening.toList = [o]) (hc : closing.toList = [c]) {members : List String}
    (h : members ≠ []) :
    (wrap s depth opening closing members).toList =
      enclosed o c (s.before depth).toList space (s.after depth).toList
        (members.map String.toList) := by
  simp [wrap, enclosed, h, String.toList_intercalate, hspace, ho, hc]

def ReadsBack (f : Format) (v : Value) : Prop :=
  ∀ depth, ∃ text, writeAt f depth v = .ok text ∧ ReadsAs v text.toList

lemma writeAll_readsBack {vs : List Value} (h : ∀ v ∈ vs, ReadsBack f v) (depth : Nat) :
    ∃ texts, writeAll f depth vs = .ok texts ∧
      List.Forall₂ ReadsAs vs (texts.map String.toList) := by
  induction vs with
  | nil => exact ⟨[], rfl, .nil⟩
  | cons v vs ih =>
    obtain ⟨text, hv, hread⟩ := h v List.mem_cons_self depth
    obtain ⟨texts, hvs, hreads⟩ := ih fun w hw => h w (List.mem_cons_of_mem v hw)
    exact ⟨text :: texts, by rw [writeAll, hv, hvs]; rfl, .cons hread hreads⟩

lemma writeEntries_readsBack {es : List (Value × Value)} (hk : ∀ e ∈ es, ∃ name, e.1 = .str name)
    (h : ∀ e ∈ es, ReadsBack f e.2) (depth : Nat) :
    ∃ texts, writeEntries f depth es = .ok texts ∧
      List.Forall₂ MemberReadsAs es (texts.map String.toList) := by
  induction es with
  | nil => exact ⟨[], rfl, .nil⟩
  | cons e es ih =>
    obtain ⟨k, v⟩ := e
    obtain ⟨name, rfl⟩ := hk (k, v) List.mem_cons_self
    obtain ⟨text, hv, hread⟩ := h _ List.mem_cons_self depth
    obtain ⟨texts, hes, hreads⟩ := ih (fun e he => hk e (List.mem_cons_of_mem _ he))
      fun e he => h e (List.mem_cons_of_mem _ he)
    refine ⟨(string name ++ ": " ++ text) :: texts, ?_,
      .cons ⟨name, text.toList, rfl, ?_, hread⟩ hreads⟩
    · rw [writeEntries, hv, hes]
      rfl
    · simp

lemma ofPairs_names {es : List (Value × Value)} (hk : ∀ e ∈ es, ∃ name, e.1 = .str name)
    (hdistinct : (Entries.keys es).Nodup) : Entries.ofPairs es = es := by
  apply Entries.ofPairs_of_pairwise
  have hpairs : es.Pairwise fun d e => d.1 ≠ e.1 := List.pairwise_map.mp hdistinct
  apply hpairs.imp_of_mem
  intro d e _ he hne
  obtain ⟨name, hname⟩ := hk e he
  rw [hname] at hne ⊢
  exact Bool.eq_false_iff.mpr (mt Value.beq_str_iff.mp hne)

lemma readsBack_list (hf : Spaced f.spacing) {vs : List Value} (h : ∀ v ∈ vs, ReadsBack f v) :
    ReadsBack f (.list vs) := by
  intro depth
  obtain ⟨texts, hwrite, hreads⟩ := writeAll_readsBack h (depth + 1)
  refine ⟨wrap f.spacing depth "[" "]" texts, by rw [writeAt, hwrite]; rfl, ?_⟩
  by_cases hempty : texts = []
  · subst hempty
    cases hreads
    rw [wrap_nil]
    exact readsAs_emptyList
  · obtain ⟨space, hbetween, hspace⟩ := hf.between depth
    rw [wrap_toList hbetween rfl rfl hempty]
    exact readsAs_list (hf.before depth) hspace (hf.after depth) (by simpa using hempty) hreads

lemma readsBack_map (hf : Spaced f.spacing) {es : List (Value × Value)}
    (hk : ∀ e ∈ es, ∃ name, e.1 = .str name) (hdistinct : (Entries.keys es).Nodup)
    (h : ∀ e ∈ es, ReadsBack f e.2) : ReadsBack f (.map es) := by
  intro depth
  obtain ⟨texts, hwrite, hreads⟩ := writeEntries_readsBack hk h (depth + 1)
  refine ⟨wrap f.spacing depth "\x7b" "\x7d" texts,
    by rw [writeAt, checkOrder_names f hk, hwrite]; rfl, ?_⟩
  by_cases hempty : texts = []
  · subst hempty
    cases hreads
    rw [wrap_nil]
    exact readsAs_emptyMap
  · obtain ⟨space, hbetween, hspace⟩ := hf.between depth
    rw [wrap_toList hbetween rfl rfl hempty]
    exact readsAs_map (hf.before depth) hspace (hf.after depth) (by simpa using hempty)
      (ofPairs_names hk hdistinct) hreads

lemma ne_of_number {c d : Char} (hc : c = '-' ∨ c.isDigit = true) (hdash : '-' ≠ d)
    (hd : d.isDigit = false) : c ≠ d := by
  rintro rfl
  rcases hc with rfl | hc
  · exact hdash rfl
  · exact absurd hc (by simp [hd])

lemma begins_number {c : Char} (hc : c = '-' ∨ c.isDigit = true) (t : List Char) :
    Begins (c :: t) := by
  have hspace : isSpace c = false := by
    simp [isSpace, ne_of_number hc (d := ' '), ne_of_number hc (d := '\t'),
      ne_of_number hc (d := '\n'), ne_of_number hc (d := '\r')]
  exact ⟨c, t, rfl, hspace, ne_of_number hc (by decide) rfl, ne_of_number hc (by decide) rfl,
    ne_of_number hc (by decide) rfl⟩

lemma readsBack_int {n : Int} (hn : (Nat.toDigits 10 n.natAbs).length ≤ Numeral.maxDigits) :
    ReadsBack f (.int n) := by
  intro depth
  refine ⟨Text.decimalInt n, by rw [writeAt, whole, Numeral.isWritable, if_pos (decide_eq_true hn)], ?_⟩
  obtain ⟨c, t, hct⟩ := List.exists_cons_of_ne_nil (Numeral.decimalInt_ne_nil n)
  have hc : c = '-' ∨ c.isDigit = true :=
    Numeral.mem_decimalInt (n := n) (hct ▸ List.mem_cons_self)
  rw [hct]
  apply readsAs_scalar (begins_number hc t) (ne_of_number hc (by decide) rfl)
    (ne_of_number hc (by decide) rfl) (ne_of_number hc (by decide) rfl)
  intro rest hrest
  exact hct ▸ scalar_int hn hrest

lemma readsBack_null : ReadsBack f .null := fun _ =>
  ⟨"null", rfl, readsAs_scalar ⟨'n', _, rfl, by decide⟩ (by decide) (by decide) (by decide)
    fun {rest} _ => scalar_null rest⟩

lemma readsBack_bool (b : Bool) : ReadsBack f (.bool b) := by
  intro depth
  cases b with
  | false =>
    exact ⟨"false", rfl, readsAs_scalar ⟨'f', _, rfl, by decide⟩ (by decide) (by decide)
      (by decide) fun {rest} _ => scalar_false rest⟩
  | true =>
    exact ⟨"true", rfl, readsAs_scalar ⟨'t', _, rfl, by decide⟩ (by decide) (by decide)
      (by decide) fun {rest} _ => scalar_true rest⟩

lemma readsBack_plain (hf : Spaced f.spacing) {v : Value} (h : Plain v) : ReadsBack f v := by
  induction h with
  | null => exact readsBack_null
  | bool b => exact readsBack_bool b
  | int hn => exact readsBack_int hn
  | str s => exact fun depth => ⟨string s, rfl, readsAs_string s⟩
  | list _ ih => exact readsBack_list hf ih
  | map hk hdistinct _ ih => exact readsBack_map hf hk hdistinct ih

end Writing

lemma spaced_line : Spaced .line where
  before _ := by simp [IsSpaces, Spacing.line]
  between _ := ⟨[' '], by simp [Spacing.line], by simp [IsSpaces, isSpace]⟩
  after _ := by simp [IsSpaces, Spacing.line]

lemma read_of_readsAs {v : Value} {text : String} (h : ReadsAs v text.toList) :
    read text = .ok v := by
  obtain ⟨c, t, hct, hspace, -, -, hmark⟩ := h.begins
  have hskip : skipSpace text.toList = text.toList := by
    rw [hct]
    exact skipSpace_cons hspace t
  have hvalue : readValue (2 * text.toList.length + 2) text.toList = .ok (v, []) := by
    have hread : readValue (2 * text.toList.length + 2) (text.toList ++ []) = .ok (v, []) :=
      h.read (by omega) (by simp [Ended])
    rwa [List.append_nil] at hread
  have htext : readText text.toList = .ok v := by
    rw [readText.eq_def]
    split
    · next heq => exact absurd (List.cons.inj (hct.symm.trans heq)).1 hmark
    · rw [hskip, hvalue]
      rfl
  rw [read, htext]

theorem read_write {f : Format} (hf : Spaced f.spacing) {v : Value} (h : Plain v) :
    ∃ text, write f v = .ok text ∧ read text = .ok v := by
  obtain ⟨text, hwrite, hread⟩ := readsBack_plain hf h 0
  exact ⟨text, hwrite, read_of_readsAs hread⟩

end HttpTemplate.Json
