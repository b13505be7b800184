import Orchestra.Http.Config
import Orchestra.Url

/-!
The guard of an HTTP client: which URLs and which resolved addresses may be called.
-/

namespace Orchestra.Http

def invalidUrl (url : Value) : Failure :=
  .invalidUrl ("Invalid URL: " ++ url.text)

/-- A host that the guard keeps away from: a local name or an internal address. -/
def isGuarded (host : String) : Bool :=
  isLocalName host || Address.isInternalText host

/-- The host under which a URL may be called. -/
def admittedHost (config : Config) (url : Value) : Except Failure String :=
  match url.str?.bind Url.ofText? with
  | none => .error (invalidUrl url)
  | some parsed =>
    if parsed.scheme == "" then .error (invalidUrl url)
    else if parsed.scheme != "http" && parsed.scheme != "https" then
      .error (.invalidUrl
        ("Invalid protocol: " ++ parsed.scheme ++ ". Only HTTP/HTTPS allowed."))
    else
      match parsed.host? with
      | none => .error (invalidUrl url)
      | some host =>
        if config.blockInternal && isGuarded host then .error (.addressBlocked (.str host))
        else .ok (Text.lower host)

/-- The addresses of a host are looked up and judged before a call. -/
def mustResolve (config : Config) (host : String) : Bool :=
  config.blockInternal && config.resolveNames && (Address.ofText? host).isNone

/-- What a resolver says of an address: its text, or its number. -/
def isInternal (address : Value) : Bool :=
  match address.whole? with
  | some n => ((Address.ofNumber? n).map Address.isInternal).getD false
  | none => (address.str?.map Address.isInternalText).getD false

/-- Judges the addresses that a host resolved to. -/
def judgeAddresses (host : String) (answer : Except Failure (List Value)) :
    Except Failure Unit :=
  match answer with
  | .error error =>
    .error (.transport ("DNS resolution failed for " ++ host ++ ": " ++ error.message))
  | .ok addresses =>
    if addresses.any isInternal then .error (.addressBlocked (.str host)) else .ok ()

end Orchestra.Http
