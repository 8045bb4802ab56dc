import HttpTemplate.Number.Numeral

/-!
Uses of a value that its type does not allow, and the few that its type allows and the value does
not. Messages name types, positions and members.
-/

namespace HttpTemplate

inductive Misuse where
  | incomparable (operator leftType rightType : String)
  | notIterable (typeName : String)
  | notContainer (typeName : String)
  | nameAsIndex (typeName : String)
  | noMember (typeName member : String)
  | notCallable (typeName : String)
  | unhashable (typeName : String)
  | bytesExpected
  | notDocument (typeName : String)
  | notLevel (literal : String)
  | notText (position : Nat) (typeName : String)
  | notSequence (position : Nat)
  | notPair (position length : Nat)
  | nullCharacter
  | oversized
deriving DecidableEq, Repr

namespace Misuse

def message : Misuse → String
  | incomparable operator leftType rightType =>
    "'" ++ operator ++ "' not supported between instances of '" ++ leftType ++ "' and '" ++
      rightType ++ "'"
  | notIterable typeName => "'" ++ typeName ++ "' object is not iterable"
  | notContainer typeName => "argument of type '" ++ typeName ++ "' is not iterable"
  | nameAsIndex "str" => "string indices must be integers, not 'str'"
  | nameAsIndex typeName => typeName ++ " indices must be integers or slices, not str"
  | noMember typeName member => "'" ++ typeName ++ "' object has no attribute '" ++ member ++ "'"
  | notCallable typeName => "'" ++ typeName ++ "' object is not callable"
  | unhashable typeName => "unhashable type: '" ++ typeName ++ "'"
  | bytesExpected => "a bytes-like object is required, not 'str'"
  | notDocument typeName => "the JSON object must be str, bytes or bytearray, not " ++ typeName
  | notLevel literal => "Level not an integer or a valid string: " ++ literal
  | notText position typeName =>
    "sequence item " ++ Text.decimal position ++ ": expected str instance, " ++ typeName ++ " found"
  | notSequence position =>
    "cannot convert dictionary update sequence element #" ++ Text.decimal position ++
      " to a sequence"
  | notPair position length =>
    "dictionary update sequence element #" ++ Text.decimal position ++ " has length " ++
      Text.decimal length ++ "; 2 is required"
  | nullCharacter => "embedded null character"
  | oversized => Numeral.excessMessage ""

/-- Whether the value is at fault and not its type. -/
def isOfValue : Misuse → Bool
  | notPair _ _ | nullCharacter | oversized => true
  | _ => false

end Misuse

end HttpTemplate
