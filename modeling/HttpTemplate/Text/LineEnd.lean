/-!
Line ends. A carriage return, alone or before a line feed, ends a line as a line feed does.
-/

namespace HttpTemplate.Text

def unifyLineEnds : List Char → List Char
  | [] => []
  | '\r' :: '\n' :: s => '\n' :: unifyLineEnds s
  | '\r' :: s => '\n' :: unifyLineEnds s
  | c :: s => c :: unifyLineEnds s

end HttpTemplate.Text
