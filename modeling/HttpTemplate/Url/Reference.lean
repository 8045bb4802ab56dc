import HttpTemplate.Text.Split
import HttpTemplate.Url.Percent

/-!
A URL cut into its five components, and an authority cut into its three. Every text has exactly one
cut; a query or a fragment may be absent, which is not the same as empty.
-/

namespace HttpTemplate.Url

structure Reference where
  scheme : List Char
  authority : List Char
  path : List Char
  query : Option (List Char)
  fragment : Option (List Char)
deriving DecidableEq, Repr

def isSchemeChar (c : Char) : Bool := isAlpha c || isDigit c || c == '+' || c == '-' || c == '.'

/-- The text before the first colon, if it is a scheme or is empty. -/
def cutScheme (s : List Char) : List Char × List Char :=
  let scheme := s.takeWhile isSchemeChar
  match s.dropWhile isSchemeChar with
  | ':' :: rest => if scheme.head?.all isAlpha then (scheme, rest) else ([], s)
  | _ => ([], s)

def endsAuthority (c : Char) : Bool := c == '/' || c == '?' || c == '#'

def endsPath (c : Char) : Bool := c == '?' || c == '#'

def endsQuery (c : Char) : Bool := c == '#'

def cutAuthority : List Char → List Char × List Char
  | '/' :: '/' :: s => (s.takeWhile (!endsAuthority ·), s.dropWhile (!endsAuthority ·))
  | s => ([], s)

def cutQuery : List Char → Option (List Char) × List Char
  | '?' :: s => (some (s.takeWhile (!endsQuery ·)), s.dropWhile (!endsQuery ·))
  | s => (none, s)

def fragment? : List Char → Option (List Char)
  | '#' :: s => some s
  | _ => none

def Reference.ofText (s : List Char) : Reference :=
  let (scheme, s) := cutScheme s
  let (authority, s) := cutAuthority s
  let path := s.takeWhile (!endsPath ·)
  let (query, s) := cutQuery (s.dropWhile (!endsPath ·))
  ⟨scheme, authority, path, query, fragment? s⟩

structure Authority where
  userinfo : List Char
  host : List Char
  port : List Char
deriving DecidableEq, Repr

/-- A host in brackets reaches to the last closing one, any other to the first colon. -/
def cutHost (s : List Char) : List Char × List Char :=
  match s with
  | '[' :: _ =>
    match Text.splitLast ']' s with
    | (some host, rest) => (host ++ [']'], rest)
    | (none, _) => (s.takeWhile (· != ':'), s.dropWhile (· != ':'))
  | s => (s.takeWhile (· != ':'), s.dropWhile (· != ':'))

def afterColon : List Char → List Char
  | ':' :: s => s
  | s => s

def Authority.ofText (s : List Char) : Authority :=
  let (userinfo, s) := Text.splitLast '@' s
  let (host, s) := cutHost s
  ⟨userinfo.getD [], host, afterColon s⟩

end HttpTemplate.Url
