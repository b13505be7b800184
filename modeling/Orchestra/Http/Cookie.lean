import Orchestra.Http.Date
import Orchestra.Http.Message

/-!
Cookies that a client keeps and sends back.

A response offers cookies in its headers, each with attributes after semicolons. A cookie belongs to a
domain and a path; those that its attributes leave open are taken from the request. It is kept unless
its domain is not that of the host, and it is sent with every later request whose host, path and port
it fits, the longest path first. One that is over when it arrives removes its namesake.
-/

namespace Orchestra.Http

namespace Target

/-- The host as cookies know it: the authority in lower case, without the port. -/
def site (target : Target) : List Char :=
  let authority := (Text.lower (String.ofList target.authority)).toList
  let digits := authority.reverse.takeWhile Char.isDigit
  match digits, authority.reverse.drop digits.length with
  | _ :: _, ':' :: front => front.reverse
  | _, _ => authority

/-- A host without a dot lies in the local domain. -/
def fullSite (target : Target) : List Char :=
  if target.site.contains '.' then target.site else target.site ++ ".local".toList

/-- The text of the port, 80 if there is none; none if it is no number. -/
def portText? (target : Target) : Option (List Char) :=
  match cut ':' (plainText target.authority).toList with
  | (_, none) => some ['8', '0']
  | (_, some port) => (Text.readBounded port).toOption.map fun _ => port

/-- Percent notation with its digits in upper case. -/
def upperPercents : List Char → List Char
  | '%' :: high :: low :: rest =>
    if (Address.hexDigit? high).isSome && (Address.hexDigit? low).isSome then
      '%' :: high.toUpper :: low.toUpper :: upperPercents rest
    else '%' :: upperPercents (high :: low :: rest)
  | c :: rest => c :: upperPercents rest
  | [] => []

/-- A path in the form in which paths are compared. -/
def comparedPath (path : List Char) : List Char :=
  upperPercents (percentText (fun c => c.isAlphanum || "_.-~%/;:@&=+$,!*'()".toList.contains c) path)

/-- The path of a request as cookies know it. -/
def cookiePath (target : Target) : List Char :=
  match comparedPath target.path with
  | '/' :: rest => '/' :: rest
  | rest => '/' :: rest

end Target

structure Cookie where
  name : String
  /-- A cookie may be a name alone. -/
  value : Option String
  version : Int
  domain : List Char
  path : List Char
  /-- The ports that the cookie is meant for, between commas; none for all. -/
  ports : Option (List Char)
  secure : Bool
  /-- The end of the cookie, in seconds from the start of the year 2024. -/
  expires : Option Int
deriving DecidableEq, Repr

namespace Cookie

/-! Headers -/

/-- An attribute: a name and what follows the equality sign, if there is one. -/
abbrev Attribute := String × Option (List Char)

/-- The parts of a header between semicolons; those without a name are left out, and a header that
starts with one offers nothing. -/
def attributes (header : String) : List Attribute :=
  let parts := (header.splitOn ";").map fun part =>
    let (name, value) := Target.cut '=' (Text.trimChars part.toList)
    (String.ofList (Text.trimChars name), value.map Text.trimChars)
  match parts with
  | ("", _) :: _ => []
  | parts => parts.filter (·.1 != "")

/-- A text without a quotation mark at its start and at its end. -/
def withoutQuotes (cs : List Char) : List Char :=
  let cs := if cs.head? == some '"' then cs.drop 1 else cs
  if cs.getLast? == some '"' then cs.dropLast else cs

/-- The date of an attribute that holds the end of the cookie. -/
def endDate (part : Attribute) : DateReading :=
  match Text.lower part.1 == "expires", part.2 with
  | true, some text => DateReading.ofText (withoutQuotes text)
  | _, _ => .unreadable

/-- What the attributes of a cookie say; the first of a name counts. -/
structure Terms where
  version : Option (List Char) := none
  domain : Option (List Char) := none
  path : Option (List Char) := none
  /-- An attribute for ports without a value means the port of the request. -/
  port : Option (Option (List Char)) := none
  secure : Option Bool := none
  /-- The end is given by a length of time, which counts more than a date. -/
  hasAge : Bool := false
  expires : Option Int := none

/-- Why a cookie is not made. -/
inductive Refusal where
  | thisCookie
  /-- An attribute for a length of time without a value spoils all cookies of the response. -/
  | allCookies
deriving DecidableEq, Repr

/-- The terms with one more attribute. -/
def Terms.add (now : Int) (terms : Terms) (part : Attribute) : Except Refusal Terms :=
  match Text.lower part.1, part.2 with
  | "secure", value =>
    .ok { terms with secure := terms.secure.or (some (value != some [])) }
  | "version", value =>
    if terms.version.isSome then .ok terms
    else
      match value with
      | none => .error .thisCookie
      | some text => .ok { terms with version := some (withoutQuotes text) }
  | "domain", value =>
    if terms.domain.isSome then .ok terms
    else
      match value with
      | none => .error .thisCookie
      | some text => .ok { terms with domain := some (Text.lower (String.ofList text)).toList }
  | "path", value =>
    if terms.path.isSome then .ok terms
    else
      match value with
      | none => .error .thisCookie
      | some text => .ok { terms with path := some text }
  | "port", value => .ok { terms with port := terms.port.or (some value) }
  | "expires", _ =>
    match endDate part with
    | .instant seconds =>
      if terms.hasAge || terms.expires.isSome then .ok terms
      else .ok { terms with expires := some seconds }
    | _ => .ok terms
  | "max-age", value =>
    match value.map Text.readBounded with
    | none => .error .allCookies
    | some (.error _) => .error .thisCookie
    | some (.ok seconds) => .ok { terms with hasAge := true, expires := some (now + seconds) }
  | _, _ => .ok terms

/-- What the attributes of a cookie say together. -/
def Terms.ofAttributes (now : Int) (attributes : List Attribute) : Except Refusal Terms :=
  attributes.foldlM (Terms.add now) {}

/-! Making and judging -/

/-- The folder of a path; for a cookie of a later version with the slash at its end. -/
def folder (version : Int) (path : List Char) : List Char :=
  let front := (path.reverse.dropWhile (· != '/')).reverse
  let folder := if version == 0 then front.dropLast else front
  if folder.isEmpty then ['/'] else folder

/-- The cookie of a name under its terms, for a request; none if its version is no number. -/
def ofTerms? (target : Target) (name : String) (value : Option String) (terms : Terms) :
    Option Cookie := do
  let version ← (Text.readBounded (terms.version.getD ['0'])).toOption
  return {
    name
    value
    version
    domain :=
      match terms.domain with
      | none => target.fullSite
      | some domain => if domain.head? == some '.' then domain else '.' :: domain
    path :=
      match terms.path with
      | none | some [] => folder version target.cookiePath
      | some path => Target.comparedPath path
    ports :=
      match terms.port with
      | none => none
      | some none => target.portText?
      | some (some ports) => some (ports.filter (!Text.isBlank ·))
    secure := terms.secure.getD false
    expires := terms.expires }

/-- The first version counts as the plain one. -/
def plain (cookie : Cookie) : Cookie :=
  if cookie.version == 1 then { cookie with version := 0 } else cookie

/-- The cookie is over. -/
def isOver (now : Int) (cookie : Cookie) : Bool :=
  (cookie.expires.map fun limit => decide (limit ≤ now)).getD false

/-- The domain with a dot in front. -/
def dotted (domain : List Char) : List Char :=
  if domain.isEmpty || domain.head? == some '.' then domain else '.' :: domain

/-- A domain that the terms name is one that the host lies in, and more than a single word unless the
host is local. -/
def mayName (target : Target) (cookie : Cookie) : Bool :=
  let site := target.fullSite
  let bare := if cookie.domain.head? == some '.' then cookie.domain.drop 1 else cookie.domain
  (bare.contains '.' || ".local".toList.isSuffixOf site)
    && (cookie.version != 0 || cookie.domain.isSuffixOf site
      || (bare ++ ".local".toList).isSuffixOf site || site.head? == some '.'
      || cookie.domain.isSuffixOf ('.' :: site))

/-- The ports that the terms name are numbers up to the one of the request, which is among them. -/
def listsPort (target : Target) (ports : List Char) : Bool :=
  let own := target.portText?.getD ['8', '0']
  let others := ((String.ofList ports).splitOn ",").map String.toList
  others.contains own
    && (others.takeWhile (· != own)).all fun port => (Text.readBounded port).isOk

/-- The cookie is kept when it comes with the response to a request. -/
def isWelcome (target : Target) (terms : Terms) (cookie : Cookie) : Bool :=
  cookie.version ≤ 0 && (terms.domain.isNone || mayName target cookie)
    && (match terms.port with
      | some (some _) => listsPort target (cookie.ports.getD [])
      | _ => true)

/-- The cookie goes with a request to the host. -/
def fitsSite (target : Target) (cookie : Cookie) : Bool :=
  let domain := dotted cookie.domain
  let lies (site : List Char) : Bool := domain.isSuffixOf (dotted site)
  (lies target.site || lies target.fullSite)
    && (cookie.version != 0 || domain.isSuffixOf ('.' :: target.fullSite))

/-- The path of the cookie is the one of the request or a folder above it. -/
def fitsPath (target : Target) (cookie : Cookie) : Bool :=
  let path := target.cookiePath
  path == cookie.path
    || cookie.path.isPrefixOf path
      && (cookie.path.getLast? == some '/' || (path.drop cookie.path.length).head? == some '/')

/-- The port of the request is one that the cookie is meant for. -/
def fitsPort (target : Target) (cookie : Cookie) : Bool :=
  match cookie.ports with
  | none | some [] => true
  | some ports =>
    (((String.ofList ports).splitOn ",").map String.toList).contains
      (target.portText?.getD ['8', '0'])

/-- The cookie goes with a request. -/
def isFor (target : Target) (now : Int) (cookie : Cookie) : Bool :=
  fitsSite target cookie && fitsPath target cookie
    && (!cookie.secure || ["https", "wss"].contains (String.ofList target.scheme))
    && !cookie.isOver now && fitsPort target cookie

/-- The form in which the cookie is sent. -/
def text (cookie : Cookie) : String :=
  match cookie.value with
  | none => cookie.name
  | some value => cookie.name ++ "=" ++ value

end Cookie

/-- The cookies that a client keeps. -/
structure CookieJar where
  /-- The domains and paths that cookies were kept for, in the order of the first one. -/
  places : List (List Char × List Char) := []
  cookies : List Cookie := []

namespace CookieJar

/-- A cookie of one place under another cookie's name. -/
def isNamesake (cookie other : Cookie) : Bool :=
  other.domain == cookie.domain && other.path == cookie.path && other.name == cookie.name

/-- Keeps a cookie, in the place of its namesake if there is one. -/
def put (jar : CookieJar) (cookie : Cookie) : CookieJar where
  places :=
    if jar.places.contains (cookie.domain, cookie.path) then jar.places
    else jar.places ++ [(cookie.domain, cookie.path)]
  cookies :=
    if jar.cookies.any (isNamesake cookie) then
      jar.cookies.map fun other => if isNamesake cookie other then cookie else other
    else jar.cookies ++ [cookie]

def remove (jar : CookieJar) (cookie : Cookie) : CookieJar :=
  { jar with cookies := jar.cookies.filter (!isNamesake cookie ·) }

/-- The cookies by domain, within a domain by path, and within a path in the order they came. -/
def ordered (jar : CookieJar) : List Cookie :=
  (jar.places.map Prod.fst).eraseDups.flatMap fun domain =>
    (jar.places.filter (·.1 == domain)).flatMap fun place =>
      jar.cookies.filter fun cookie => cookie.domain == place.1 && cookie.path == place.2

/-- The cookies that headers offer, each with its terms; none at all if one of them spoils the others. -/
def offers (target : Target) (now : Int) (headers : List String) : List (Cookie × Cookie.Terms) :=
  let all := headers.map Cookie.attributes
  if all.any fun attributes => (attributes.drop 1).any (Cookie.endDate · == .monthless) then []
  else
    let terms := all.map fun attributes => Cookie.Terms.ofAttributes now (attributes.drop 1)
    if terms.any fun | .error .allCookies => true | _ => false then []
    else
      (all.zip terms).filterMap fun
        | ((name, value) :: _, .ok terms) =>
          (Cookie.ofTerms? target name (value.map String.ofList) terms).map (·, terms)
        | _ => none

/-- Takes in what the headers of a response to a request offer. -/
def receive (jar : CookieJar) (target : Target) (now : Int) (headers : List String) : CookieJar :=
  let (gone, offered) := (offers target now headers).partition fun (cookie, _) => cookie.isOver now
  let jar := gone.foldl (fun jar (cookie, _) => jar.remove cookie) jar
  offered.foldl (fun jar (cookie, terms) =>
    let cookie := cookie.plain
    if cookie.isWelcome target terms then jar.put cookie else jar) jar

/-- The text of the cookies that go with a request, the longest path first; none if there are none. -/
def header? (jar : CookieJar) (target : Target) (now : Int) : Option String :=
  match jar.ordered.filter (·.isFor target now) with
  | [] => none
  | cookies =>
    let sorted := cookies.mergeSort fun a b => b.path.length ≤ a.path.length
    some ("; ".intercalate (sorted.map Cookie.text))

end CookieJar

/-- A request with the cookies of a jar, unless it names cookies itself. -/
def Outgoing.withCookies (jar : CookieJar) (now : Int) (request : Outgoing) : Outgoing :=
  if request.headers.any fun entry => Text.lower entry.1 == "cookie" then request
  else
    match jar.header? request.target now with
    | none => request
    | some text => { request with headers := request.headers ++ [("cookie", text)] }

/-- The headers of a response that offer cookies. -/
def Response.cookieHeaders (response : Response) : List String :=
  (response.headers.filter fun entry => Text.lower entry.1 == "set-cookie").map Prod.snd

end Orchestra.Http
