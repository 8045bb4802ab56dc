/-!
Cutting text at a separator, and finding text in text.
-/

namespace HttpTemplate.Text

variable {α : Type} [DecidableEq α]

def splitOn (sep : α) : List α → List (List α)
  | [] => [[]]
  | c :: s =>
    if c = sep then [] :: splitOn sep s
    else match splitOn sep s with
      | [] => [[c]]
      | piece :: pieces => (c :: piece) :: pieces

def splitFirst (sep : α) : List α → List α × Option (List α)
  | [] => ([], none)
  | c :: s => if c = sep then ([], some s) else (c :: (splitFirst sep s).1, (splitFirst sep s).2)

def splitLast (sep : α) (s : List α) : Option (List α) × List α :=
  let (after, before) := splitFirst sep s.reverse
  (before.map List.reverse, after.reverse)

theorem splitOn_ne_nil (sep : α) (s : List α) : splitOn sep s ≠ [] := by
  cases s with
  | nil => simp [splitOn]
  | cons c s =>
    rw [splitOn]
    split
    · simp
    · split <;> simp

def occursIn (needle : List α) : List α → Bool
  | [] => needle.isEmpty
  | c :: s => needle.isPrefixOf (c :: s) || occursIn needle s

def mentions (text word : String) : Bool := occursIn word.toList text.toList

end HttpTemplate.Text
