import HttpTemplate.Node
import HttpTemplate.Proofs.Placeholder.Printing

/-! Values that a template carries as they are. With a backslash before each brace a text has no
placeholder and is read back to itself, and so is every value whose texts are escaped in this way. -/

namespace HttpTemplate.Literals

open Placeholder

def escapeText (s : String) : String := String.ofList (s.toList.flatMap escapeBrace)

mutual

/-- Keys of mappings are no texts of the template and stay as they are. -/
def escape : Value → Value
  | .str s => .str (escapeText s)
  | .map entries => .map (escapeEntries entries)
  | .list items => .list (escapeAll items)
  | .tuple items => .tuple (escapeAll items)
  | v => v

def escapeAll : List Value → List Value
  | [] => []
  | v :: vs => escape v :: escapeAll vs

def escapeEntries : List (Value × Value) → List (Value × Value)
  | [] => []
  | (k, v) :: es => (k, escape v) :: escapeEntries es

end

mutual

/-- The value with lists for its tuples, those within keys apart. -/
def listed : Value → Value
  | .map entries => .map (listedEntries entries)
  | .list items => .list (listedAll items)
  | .tuple items => .list (listedAll items)
  | v => v

def listedAll : List Value → List Value
  | [] => []
  | v :: vs => listed v :: listedAll vs

def listedEntries : List (Value × Value) → List (Value × Value)
  | [] => []
  | (k, v) :: es => (k, listed v) :: listedEntries es

end

section Texts

lemma merged_literal (cs : List Char) : Merged (literal cs) := by
  simpa using merged_literal_append cs merged_nil (by simp)

lemma atoms_parse_escapeText (s : String) : atoms (parse (escapeText s)) = s.toList.map .inl := by
  have hspans : (spans (s.toList.flatMap escapeBrace ++ [])).map spanAtom =
      s.toList.map .inl ++ (spans []).map spanAtom := atoms_escapeBrace fun _ => rfl
  rw [parse, atoms_tokens, escapeText, String.toList_ofList, ← List.append_nil (s.toList.flatMap _),
    hspans]
  simp [spans]

lemma parse_escapeText (s : String) : parse (escapeText s) = literal s.toList :=
  merged_unique (merged_tokens _) (merged_literal _)
    ((atoms_parse_escapeText s).trans (atoms_literal _).symm)

lemma substitute_literal (arguments : Arguments) (source : String) (cs : List Char) :
    (Leaf.mk source (literal cs)).substitute arguments = .ok (.str (String.ofList cs)) := by
  cases cs with
  | nil => rfl
  | cons c cs =>
    have happend : String.ofList (c :: cs) ++ "" = String.ofList (c :: cs) := String.append_empty
    exact congrArg (fun s => Except.ok (Value.str s)) happend

lemma occurrences_literal (source : String) (cs : List Char) :
    (Leaf.mk source (literal cs)).occurrences = [] := by
  cases cs <;> rfl

lemma substitute_escapeText (arguments : Arguments) (s : String) :
    (Leaf.ofText (escapeText s)).substitute arguments = .ok (.str s) := by
  rw [Leaf.ofText, parse_escapeText, substitute_literal, String.ofList_toList]

lemma occurrences_escapeText (s : String) : (Leaf.ofText (escapeText s)).occurrences = [] := by
  rw [Leaf.ofText, parse_escapeText, occurrences_literal]

end Texts

section Structures

variable (arguments : Arguments)

mutual

lemma substitute_escape (v : Value) :
    (Node.compile (escape v)).substitute arguments = .ok (listed v) := by
  match v with
  | .str s => exact substitute_escapeText arguments s
  | .map entries =>
    rw [escape, Node.compile, Node.substitute, substituteEntries_escape entries]
    rfl
  | .list items | .tuple items =>
    rw [escape, Node.compile, Node.substitute, substituteAll_escape items]
    rfl
  | .null | .bool _ | .int _ | .float _ | .bytes _ | .record _ _ | .pairing _ | .attachment _ => rfl

lemma substituteAll_escape (items : List Value) :
    Node.substituteAll arguments (Node.compileAll (escapeAll items)) = .ok (listedAll items) := by
  match items with
  | [] => rfl
  | v :: vs =>
    rw [escapeAll, Node.compileAll, Node.substituteAll, substitute_escape v, substituteAll_escape vs]
    rfl

lemma substituteEntries_escape (entries : List (Value × Value)) :
    Node.substituteEntries arguments (Node.compileEntries (escapeEntries entries)) =
      .ok (listedEntries entries) := by
  match entries with
  | [] => rfl
  | (_, v) :: es =>
    rw [escapeEntries, Node.compileEntries, Node.substituteEntries, substitute_escape v,
      substituteEntries_escape es]
    rfl

end

mutual

lemma occurrences_escape (v : Value) : (Node.compile (escape v)).occurrences = [] := by
  match v with
  | .str s => exact occurrences_escapeText s
  | .map entries =>
    rw [escape, Node.compile, Node.occurrences]
    exact occurrencesInEntries_escape entries
  | .list items | .tuple items =>
    rw [escape, Node.compile, Node.occurrences]
    exact occurrencesInAll_escape items
  | .null | .bool _ | .int _ | .float _ | .bytes _ | .record _ _ | .pairing _ | .attachment _ => rfl

lemma occurrencesInAll_escape (items : List Value) :
    Node.occurrencesInAll (Node.compileAll (escapeAll items)) = [] := by
  match items with
  | [] => rfl
  | v :: vs =>
    rw [escapeAll, Node.compileAll, Node.occurrencesInAll, occurrences_escape v,
      occurrencesInAll_escape vs]
    rfl

lemma occurrencesInEntries_escape (entries : List (Value × Value)) :
    Node.occurrencesInEntries (Node.compileEntries (escapeEntries entries)) = [] := by
  match entries with
  | [] => rfl
  | (_, v) :: es =>
    rw [escapeEntries, Node.compileEntries, Node.occurrencesInEntries, occurrences_escape v,
      occurrencesInEntries_escape es]
    rfl

end

end Structures

theorem escaped_value_unchanged (v : Value) :
    (∀ arguments, (Node.compile (escape v)).substitute arguments = .ok (listed v)) ∧
      (Node.compile (escape v)).occurrences = [] :=
  ⟨fun arguments => substitute_escape arguments v, occurrences_escape v⟩

end HttpTemplate.Literals
