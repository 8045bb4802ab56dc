/-!
Tables of closed intervals of code points, the form in which character properties are stored.
-/

namespace HttpTemplate.Text

def inIntervals (table : List (Nat × Nat)) (n : Nat) : Bool :=
  table.any fun (first, last) => first ≤ n && n ≤ last

end HttpTemplate.Text
