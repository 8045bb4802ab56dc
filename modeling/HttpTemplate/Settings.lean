import HttpTemplate.Number.Numeral
import HttpTemplate.Text.Case
import HttpTemplate.Value

/-!
What every request takes from its surroundings: timeout, user agent, redirects, certificate checks
and the greatest size of a response body. Environment variables override the defaults, and one that
does not parse is ignored.
-/

namespace HttpTemplate

abbrev Environment := Entries String String

def defaultMaxBodyBytes : Int := 16777216

structure Settings where
  timeout : Value := .float (.ofInt 10)
  userAgent : String := "resttemplate/0.1.0"
  allowRedirects : Bool := true
  verifyCertificates : Bool := true
  maxBodyBytes : Int := defaultMaxBodyBytes
deriving Repr

namespace Settings

def flag (default : Bool) : Option String → Bool
  | none => default
  | some text => ["1", "true", "yes", "on"].contains (Text.lower (Text.strip text))

def real? (text : Option String) : Option Value :=
  text >>= fun text => (Numeral.readReal? text.toList).map .float

def whole? (text : Option String) : Option Int :=
  text >>= fun text => (Numeral.readInt text.toList).toOption

def effectiveSize (size : Int) : Int := if size ≤ 0 then defaultMaxBodyBytes else size

def ofEnvironment (env : Environment) : Settings :=
  let defaults : Settings := {}
  { timeout := (real? (env.get? "RESTTEMPLATE_HTTP_TIMEOUT")).getD defaults.timeout
    userAgent := (env.get? "RESTTEMPLATE_USER_AGENT").getD defaults.userAgent
    allowRedirects := flag defaults.allowRedirects (env.get? "RESTTEMPLATE_HTTP_REDIRECTS")
    verifyCertificates :=
      flag defaults.verifyCertificates (env.get? "RESTTEMPLATE_HTTP_VERIFY_SSL")
    maxBodyBytes :=
      effectiveSize ((whole? (env.get? "RESTTEMPLATE_HTTP_MAX_BODY_BYTES")).getD
        defaults.maxBodyBytes) }

end Settings

end HttpTemplate
