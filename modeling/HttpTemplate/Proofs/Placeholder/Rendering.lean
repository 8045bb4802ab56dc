import HttpTemplate.Proofs.Placeholder.Merging
import HttpTemplate.Proofs.Resolution

/-! The rendering of a text is that of its characters and variables one after the other, whether
the text is a single variable, has none, or mixes them with literals. -/

namespace HttpTemplate.Placeholder

open Resolution

def inTurn (x y : Except VariableFault String) : Except VariableFault String := do
  let s ← x
  let t ← y
  return s ++ t

lemma inTurn_empty (x : Except VariableFault String) : inTurn x (.ok "") = x := by
  cases x with
  | error f => rfl
  | ok s => exact congrArg Except.ok String.append_empty

lemma empty_inTurn (x : Except VariableFault String) : inTurn (.ok "") x = x := by
  cases x with
  | error f => rfl
  | ok s => exact congrArg Except.ok String.empty_append

lemma inTurn_assoc (x y z : Except VariableFault String) :
    inTurn (inTurn x y) z = inTurn x (inTurn y z) := by
  cases x with
  | error f => rfl
  | ok s =>
    cases y with
    | error f => rfl
    | ok t =>
      cases z with
      | error f => rfl
      | ok u => exact congrArg Except.ok String.append_assoc

variable (arguments : Arguments)

def renderAtom : Atom → Except VariableFault String
  | .inl c => .ok (String.singleton c)
  | .inr v => (v.resolve arguments).map Value.render

def renderAtoms : List Atom → Except VariableFault String
  | [] => .ok ""
  | a :: as => inTurn (renderAtom arguments a) (renderAtoms as)

lemma renderAtoms_append (as bs : List Atom) :
    renderAtoms arguments (as ++ bs) =
      inTurn (renderAtoms arguments as) (renderAtoms arguments bs) := by
  induction as with
  | nil => exact (empty_inTurn _).symm
  | cons a as ih => rw [List.cons_append, renderAtoms, renderAtoms, ih, inTurn_assoc]

lemma renderAtoms_chars (cs : List Char) :
    renderAtoms arguments (cs.map .inl) = .ok (String.ofList cs) := by
  induction cs with
  | nil => rfl
  | cons c cs ih =>
    rw [List.map_cons, renderAtoms, ih, String.ofList_cons]
    rfl

lemma renderAtoms_variable (v : Variable) :
    renderAtoms arguments [.inr v] = (v.resolve arguments).map Value.render :=
  inTurn_empty _

lemma renderToken_eq (t : Token) :
    Leaf.renderToken arguments t = renderAtoms arguments (tokenAtoms t) := by
  cases t with
  | literal text => rw [tokenAtoms, renderAtoms_chars, String.ofList_toList, Leaf.renderToken]
  | placeholder v => exact (renderAtoms_variable arguments v).symm

lemma renderTokens_eq (ts : List Token) :
    Leaf.renderTokens arguments ts = renderAtoms arguments (atoms ts) := by
  induction ts with
  | nil => rfl
  | cons t ts ih =>
    rw [atoms_cons, renderAtoms_append, ← renderToken_eq, ← ih]
    rfl

lemma render_substitute (l : Leaf) :
    (l.substitute arguments).map Value.render = renderAtoms arguments (atoms l.tokens) := by
  rw [Leaf.substitute]
  split
  · next v hv =>
    rw [single_eq_some hv]
    exact (renderAtoms_variable arguments v).symm
  · rw [← renderTokens_eq]
    cases Leaf.renderTokens arguments l.tokens <;> rfl

end HttpTemplate.Placeholder
