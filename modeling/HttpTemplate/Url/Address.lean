import HttpTemplate.Text.Split
import HttpTemplate.Url.Percent

/-!
Internet addresses in text: four decimal octets, or eight groups of hexadecimal digits of which a
run of zeros may be left out once.
-/

namespace HttpTemplate.Url

def decimalValue (s : List Char) : Nat := s.foldl (fun n c => n * 10 + (c.toNat - 0x30)) 0

def isOctet (s : List Char) : Bool :=
  !s.isEmpty && s.all isDigit && s.length ≤ 3 && (s == ['0'] || s.head? != some '0') &&
    decimalValue s ≤ 255

def isIPv4 (s : List Char) : Bool :=
  let octets := Text.splitOn '.' s
  octets.length == 4 && octets.all isOctet

/-- Four rows of digits with a point between each two of them; any other host is a name. -/
def looksLikeIPv4 (s : List Char) : Bool :=
  let rows := Text.splitOn '.' s
  rows.length == 4 && rows.all fun row => !row.isEmpty && row.all isDigit

def isGroup (s : List Char) : Bool := !s.isEmpty && s.all isHexDigit && s.length ≤ 4

def withoutZone? (s : List Char) : Option (List Char) :=
  match Text.splitFirst '%' s with
  | (address, none) => some address
  | (address, some zone) => if zone.isEmpty || zone.contains '%' then none else some address

/-- The groups, the last two of which may be written as an address of four octets. -/
def groups? (s : List Char) : Option (List (List Char)) :=
  let groups := Text.splitOn ':' s
  match groups.getLast? with
  | some last =>
    if last.contains '.' then
      if isIPv4 last then some (groups.dropLast ++ [['0'], ['0']]) else none
    else some groups
  | none => none

def gaps (groups : List (List Char)) : Nat :=
  ((groups.drop 1).dropLast.filter List.isEmpty).length

/-- All groups when none is left out, else those before and after the gap, of which there are at
most seven; an end that is empty has to touch the gap. -/
def written? (groups : List (List Char)) : Option (List (List Char)) :=
  let before := groups.takeWhile (!·.isEmpty)
  let after := (groups.reverse.takeWhile (!·.isEmpty)).reverse
  let openEnds := (groups.head?.any List.isEmpty).toNat + (groups.getLast?.any List.isEmpty).toNat
  if gaps groups = 0 then
    if groups.length = 8 then some groups else none
  else if gaps groups = 1 ∧ groups.length = before.length + after.length + 1 + openEnds ∧
      before.length + after.length < 8 then
    some (before ++ after)
  else none

def isIPv6 (s : List Char) : Bool :=
  (withoutZone? s >>= groups? >>= written?).any (·.all isGroup)

end HttpTemplate.Url
