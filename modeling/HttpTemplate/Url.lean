import HttpTemplate.Number.Numeral
import HttpTemplate.Text.Case
import HttpTemplate.Text.Quoted
import HttpTemplate.Url.Address
import HttpTemplate.Url.Form
import HttpTemplate.Url.Reference

/-!
Normal URLs. Scheme and host are in lower case, the default port of the scheme is left out, dot
segments are resolved and what a component may not hold is percent-coded. `mergeQuery` reads a URL,
puts pairs into its query and normalizes the result once more, component by component. How host
names outside ASCII are encoded is left open: `Idna` says what is known of it.
-/

namespace HttpTemplate

/-- The encoding of host names outside ASCII. It may refuse a name; those that it gives are in
lower-case letters, digits, hyphens and points. -/
class Idna where
  encode? : List Char → Option (List Char)
  plain : ∀ host name, encode? host = some name →
    ∀ c ∈ name, ('a' ≤ c ∧ c ≤ 'z') ∨ Url.isDigit c = true ∨ c = '-' ∨ c = '.'

namespace Idna

scoped instance refusing : Idna where
  encode? _ := none
  plain := nofun

end Idna

structure Url where
  scheme : List Char
  userinfo : List Char
  host : List Char
  port : Option Int
  path : List Char
  query : Option (List Char)
  fragment : Option (List Char)
deriving DecidableEq, Repr

namespace Url

inductive Component where
  | scheme
  | authority
  | path
  | query
  | fragment
deriving DecidableEq, Repr

def Component.name : Component → String
  | scheme => "scheme"
  | authority => "authority"
  | path => "path"
  | query => "query"
  | fragment => "fragment"

inductive Fault where
  | tooLong
  | componentTooLong (component : Component)
  | unprintable (c : Char) (position : Nat)
  | address4 (host : List Char)
  | address6 (host : List Char)
  | hostName (host : List Char)
  | port (text : List Char)
  | pathAfterAuthority
  | doubleSlash
  | leadingColon
deriving DecidableEq, Repr

def quotedText (s : List Char) : String := String.ofList (Text.quotedChars s)

def Fault.message : Fault → String
  | tooLong => "URL too long"
  | componentTooLong component => "URL component '" ++ component.name ++ "' too long"
  | unprintable c position =>
    "Invalid non-printable ASCII character in URL, " ++ quotedText [c] ++ " at position " ++
      Text.decimal position ++ "."
  | address4 host => "Invalid IPv4 address: " ++ quotedText host
  | address6 host => "Invalid IPv6 address: " ++ quotedText host
  | hostName host => "Invalid IDNA hostname: " ++ quotedText host
  | port text => "Invalid port: " ++ quotedText text
  | pathAfterAuthority => "For absolute URLs, path must be empty or begin with '/'"
  | doubleSlash => "Relative URLs cannot have a path starting with '//'"
  | leadingColon => "Relative URLs cannot have a path starting with ':'"

def maxLength : Nat := 65536

def lowerAscii (s : List Char) : List Char := s.map Char.toLower

def isUnprintable (c : Char) : Bool := c.toNat < 0x20 || c.toNat == 0x7f

variable [Idna]

def normalHost (host : List Char) : Except Fault (List Char) :=
  if looksLikeIPv4 host then if isIPv4 host then .ok host else .error (.address4 host)
  else if host.head? = some '[' ∧ host.getLast? = some ']' then
    let address := (host.drop 1).dropLast
    if isIPv6 address then .ok address else .error (.address6 host)
  else if host.all (·.toNat < 0x80) then .ok (quote safeInHost (lowerAscii host))
  else match Idna.encode? (Text.lowerFrom [] host) with
    | some name => .ok name
    | none => .error (.hostName host)

def defaultPort? (scheme : List Char) : Option Int :=
  match String.ofList scheme with
  | "ftp" => some 21
  | "http" => some 80
  | "ws" => some 80
  | "https" => some 443
  | "wss" => some 443
  | _ => none

def normalPort (scheme text : List Char) : Except Fault (Option Int) :=
  if text.isEmpty then .ok none
  else match Numeral.readInt text with
    | .ok n => .ok (if defaultPort? scheme = some n then none else some n)
    | .error _ => .error (.port text)

def dot : List Char := ['.']

def dotDot : List Char := ['.', '.']

/-- The segments that are left; `kept` holds those before in reverse. A first empty segment is the
root, which nothing goes above. -/
def resolveDots (kept : List (List Char)) : List (List Char) → List (List Char)
  | [] => kept.reverse
  | s :: rest =>
    if s = dot then resolveDots kept rest
    else if s = dotDot then resolveDots (if kept = [[]] then kept else kept.drop 1) rest
    else resolveDots (s :: kept) rest

def withoutDots (path : List Char) : List Char :=
  let segments := Text.splitOn '/' path
  if segments.contains dot || segments.contains dotDot then
    ['/'].intercalate (resolveDots [] segments)
  else path

def checkPath (hasScheme hasAuthority : Bool) (path : List Char) : Except Fault Unit :=
  if hasAuthority && path.head?.any (· != '/') then .error .pathAfterAuthority
  else if hasScheme || hasAuthority then .ok ()
  else if ['/', '/'].isPrefixOf path then .error .doubleSlash
  else if path.head? = some ':' then .error .leadingColon
  else .ok ()

/-- The default port is that of the scheme as it is written. -/
def ofReference (r : Reference) : Except Fault Url := do
  let a := Authority.ofText r.authority
  let userinfo := quote safeInUserinfo a.userinfo
  let host ← normalHost a.host
  let port ← normalPort r.scheme a.port
  let hasScheme := !r.scheme.isEmpty
  let hasAuthority := !userinfo.isEmpty || !host.isEmpty || port.isSome
  checkPath hasScheme hasAuthority r.path
  let path := if hasScheme || hasAuthority then withoutDots r.path else r.path
  return {
    scheme := lowerAscii r.scheme
    userinfo, host, port
    path := quote safeInPath path
    query := r.query.map (quote safeInQuery)
    fragment := r.fragment.map (quote safeInFragment) }

def parse (s : List Char) : Except Fault Url :=
  if maxLength < s.length then .error .tooLong
  else match s.find? isUnprintable with
    | some c => .error (.unprintable c (s.idxOf c))
    | none => ofReference (.ofText s)

def authority (u : Url) : List Char :=
  (if u.userinfo.isEmpty then [] else u.userinfo ++ ['@']) ++
    (if u.host.contains ':' then '[' :: (u.host ++ [']']) else u.host) ++
    match u.port with
    | some n => ':' :: (Text.decimalInt n).toList
    | none => []

def toReference (u : Url) : Reference := ⟨u.scheme, u.authority, u.path, u.query, u.fragment⟩

def components (r : Reference) : List (Component × List Char) :=
  [(.scheme, r.scheme), (.authority, r.authority), (.path, r.path), (.query, r.query.getD []),
    (.fragment, r.fragment.getD [])]

def ofComponents (r : Reference) : Except Fault Url :=
  match (components r).find? (maxLength < ·.2.length) with
  | some (component, _) => .error (.componentTooLong component)
  | none => ofReference r

def render (u : Url) : List Char :=
  let authority := u.authority
  (if u.scheme.isEmpty then [] else u.scheme ++ [':']) ++
    (if authority.isEmpty then [] else '/' :: '/' :: authority) ++ u.path ++
    (match u.query with
      | some q => '?' :: q
      | none => []) ++
    match u.fragment with
    | some f => '#' :: f
    | none => []

def text (u : Url) : String := String.ofList u.render

def pairs (u : Url) : Form.Pairs := Form.read (u.query.getD [])

def withPairs (u : Url) (new : Form.Pairs) : Except Fault Url :=
  ofComponents { u.toReference with query := some (Form.write (Form.merge u.pairs new)) }

def mergeQuery (url : String) (new : Form.Pairs) : Except Fault String := do
  let u ← parse url.toList
  let u ← u.withPairs new
  return u.text

end Url

end HttpTemplate
