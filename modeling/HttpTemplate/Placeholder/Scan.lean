import HttpTemplate.Placeholder.Token

/-!
Reading a template text. Between braces stand an optional mark `!` or `^`, a name, an optional
default after `=` and an optional kind after `:`. A backslash before a brace makes it a plain
character, and so is a brace that opens no variable; no text is refused. The text is first cut into
spans, and neighbouring characters are then merged into literals.
-/

namespace HttpTemplate.Placeholder

def isBrace (c : Char) : Bool := c == '{' || c == '}'

def isMark (c : Char) : Bool := c == '!' || c == '^'

def endsName (c : Char) : Bool := isMark c || c == '=' || c == ':' || isBrace c

def endsDefault (c : Char) : Bool := c == ':' || c == '}'

def endsKind (c : Char) : Bool := c == '}'

def cut (stop : Char → Bool) (s : List Char) : List Char × List Char :=
  (s.takeWhile (!stop ·), s.dropWhile (!stop ·))

def mark : List Char → Bool × List Char
  | [] => (false, [])
  | c :: s => if isMark c then (true, s) else (false, c :: s)

def default? : List Char → Option String × List Char
  | '=' :: s => (some (String.ofList (cut endsDefault s).1), (cut endsDefault s).2)
  | s => (none, s)

def kindNamed? (name : String) : Option Kind :=
  if name = "number" then some .number
  else if name = "boolean" then some .boolean
  else none

def kind? : List Char → Option (Kind × List Char)
  | ':' :: s => (kindNamed? (String.ofList (cut endsKind s).1)).map (·, (cut endsKind s).2)
  | s => some (.string, s)

def body? (s : List Char) : Option (Variable × List Char) :=
  let (required, s) := mark s
  let (name, s) := cut endsName s
  if name.isEmpty then none
  else
    let (default, s) := default? s
    match kind? s with
    | some (kind, '}' :: rest) => some (⟨String.ofList name, required, default, kind⟩, rest)
    | _ => none

inductive Span where
  | escaped (brace : Char)
  | placeholder (v : Variable)
  | plain (c : Char)
deriving DecidableEq, Repr

theorem length_cut_le (stop : Char → Bool) (s : List Char) : (cut stop s).2.length ≤ s.length :=
  (List.dropWhile_sublist _).length_le

theorem length_mark_le (s : List Char) : (mark s).2.length ≤ s.length := by
  cases s with
  | nil => exact Nat.le_refl _
  | cons c s => by_cases h : isMark c = true <;> simp [mark, h]

theorem length_default_le (s : List Char) : (default? s).2.length ≤ s.length := by
  rw [default?.eq_def]
  split
  · exact Nat.le_trans (length_cut_le _ _) (by simp)
  · exact Nat.le_refl _

theorem length_kind_le {s rest : List Char} {k : Kind} (h : kind? s = some (k, rest)) :
    rest.length ≤ s.length := by
  rw [kind?.eq_def] at h
  split at h
  · obtain ⟨_, _, h⟩ := Option.map_eq_some_iff.1 h
    cases h
    exact Nat.le_trans (length_cut_le _ _) (by simp)
  · cases h
    exact Nat.le_refl _

theorem length_body_lt {s rest : List Char} {v : Variable} (h : body? s = some (v, rest)) :
    rest.length < s.length := by
  simp only [body?] at h
  split at h
  · cases h
  · split at h
    · next hk =>
      cases h
      have hk := length_kind_le hk
      have hd := length_default_le (cut endsName (mark s).2).2
      have hn := length_cut_le endsName (mark s).2
      have hm := length_mark_le s
      simp only [List.length_cons] at hk
      omega
    · cases h

/-- The cut of a text from left to right: an escaped brace, else a variable, else one character. -/
def spans : List Char → List Span
  | [] => []
  | '\\' :: c :: s =>
    if isBrace c then .escaped c :: spans s else .plain '\\' :: spans (c :: s)
  | '{' :: s =>
    match _h : body? s with
    | some (v, rest) => .placeholder v :: spans rest
    | none => .plain '{' :: spans s
  | c :: s => .plain c :: spans s
termination_by s => s.length
decreasing_by
  all_goals simp only [List.length_cons]
  all_goals first
    | omega
    | exact Nat.lt_succ_of_lt (length_body_lt _h)

def literal (text : List Char) : List Token :=
  if text.isEmpty then [] else [.literal (String.ofList text)]

/-- The tokens of a cut, after the characters in `pending`, which are in reverse. -/
def mergeAfter (pending : List Char) : List Span → List Token
  | [] => literal pending.reverse
  | .placeholder v :: rest => literal pending.reverse ++ .placeholder v :: mergeAfter [] rest
  | .escaped c :: rest => mergeAfter (c :: pending) rest
  | .plain c :: rest => mergeAfter (c :: pending) rest

def tokens (text : List Char) : List Token := mergeAfter [] (spans text)

def parse (text : String) : List Token := tokens text.toList

end HttpTemplate.Placeholder
