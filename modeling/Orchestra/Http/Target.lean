import Orchestra.Address.Reader
import Orchestra.Domain.Name
import Orchestra.Text.Base64
import Orchestra.Text.Case
import Orchestra.Text.Charset
import Orchestra.Text.Integer

/-!
The target of a request: a URL taken apart and put into the form that is sent.

Scheme and host are written in lower case, a host beyond ASCII by its encoded name, the usual port
of a scheme is left out, dots that stand for a folder or its parent are resolved, and characters that
a part cannot hold are written as percent signs with two digits; what is already written so stays.
-/

namespace Orchestra.Http

/-- Why no request can be sent to a URL. -/
inductive TargetFault where
  | tooLong
  /-- A control character and its position. -/
  | unprintable (c : Char) (position : Nat)
  | badV4 (host : String)
  | badV6 (host : String)
  | badName (host : String)
  | badPort (port : String)
  | doubleSlash
  | leadingColon
  | looseStart
deriving DecidableEq, Repr

def TargetFault.message : TargetFault → String
  | .tooLong => "URL too long"
  | .unprintable c position =>
    "Invalid non-printable ASCII character in URL, " ++ Value.quoted (String.singleton c)
      ++ " at position " ++ String.ofList (Text.naturalText position) ++ "."
  | .badV4 host => "Invalid IPv4 address: " ++ Value.quoted host
  | .badV6 host => "Invalid IPv6 address: " ++ Value.quoted host
  | .badName host => "Invalid IDNA hostname: " ++ Value.quoted host
  | .badPort port => "Invalid port: " ++ Value.quoted port
  | .doubleSlash => "Relative URLs cannot have a path starting with '//'"
  | .leadingColon => "Relative URLs cannot have a path starting with ':'"
  | .looseStart => "For absolute URLs, path must be empty or begin with '/'"

/-- A URL whose parts are in the form that is sent. -/
structure Target where
  scheme : List Char
  user : List Char
  /-- The host, without brackets. -/
  host : List Char
  port : Option Int
  path : List Char
  query : Option (List Char)
  fragment : Option (List Char)
deriving DecidableEq, Repr

namespace Target

/-! Percent notation -/

def percentByte (byte : UInt8) : List Char :=
  '%' :: (Text.padded 16 2 byte.toNat).map Char.toUpper

/-- A part with the characters it cannot hold in percent notation; percent signs stay. -/
def percentText (mayStand : Char → Bool) (cs : List Char) : List Char :=
  cs.flatMap fun c =>
    if mayStand c then [c] else c.toString.toUTF8.toList.flatMap percentByte

/-- A visible ASCII character apart from some. -/
def isVisibleBut (refused : List Char) (c : Char) : Bool :=
  0x20 < c.toNat && c.toNat < 0x7f && !refused.contains c

def refusedInQuery : List Char := ['"', '#', '<', '>']

def refusedInPath : List Char := ['"', '#', '<', '>', '?', '\x60', '{', '}']

def refusedInUser : List Char :=
  refusedInPath ++ ['/', ';', '=', '@', '[', '\\', ']', '^', '|']

def refusedInFragment : List Char := ['"', '<', '>', '\x60']

/-- A character of a host in ASCII that stays as it is. -/
def isHostChar (c : Char) : Bool :=
  c.isAlphanum || "-._~!$&'()*+,;=\"\x60\x7b\x7d%|\\".toList.contains c

/-- The bytes of a text in percent notation. -/
def percentBytes : List Char → List UInt8
  | '%' :: high :: low :: rest =>
    match Address.hexDigit? high, Address.hexDigit? low with
    | some high, some low => UInt8.ofNat (16 * high + low) :: percentBytes rest
    | _, _ => '%'.toString.toUTF8.toList ++ percentBytes (high :: low :: rest)
  | c :: rest => c.toString.toUTF8.toList ++ percentBytes rest
  | [] => []

/-- A text with its percent notation resolved. -/
def plainText (cs : List Char) : String :=
  String.ofList (Text.utf8 (percentBytes cs))

/-! Parts of a URL -/

/-- The text in front of a colon if it is a scheme, and what follows it. -/
def splitScheme (cs : List Char) : List Char × List Char :=
  let front := cs.takeWhile fun c => c.isAlphanum || c == '+' || c == '.' || c == '-'
  match cs.drop front.length with
  | ':' :: rest =>
    if (front.head?.map Char.isAlpha).getD true then (front, rest) else ([], cs)
  | _ => ([], cs)

/-- The text up to the last at sign, if there is one, and what follows it. -/
def splitUser (authority : List Char) : List Char × List Char :=
  let host := (authority.reverse.takeWhile (· != '@')).reverse
  (authority.take (authority.length - host.length - 1), host)

/-- A host in brackets up to the last of them, or up to a colon, and the text of the port. -/
def splitPort (text : List Char) : List Char × List Char :=
  let back := text.reverse.takeWhile (· != ']')
  let host :=
    if text.head? == some '[' && back.length < text.length then
      text.take (text.length - back.length)
    else text.takeWhile (· != ':')
  match text.drop host.length with
  | ':' :: port => (host, port)
  | port => (host, port)

/-- A step through four runs of digits with one character of any kind between them: the even places
await the first digit of a run, the odd ones are inside a run. -/
def dottedStep (places : List Nat) (c : Char) : List Nat :=
  (places.flatMap fun place =>
    (if c.isDigit then [if place % 2 == 0 then place + 1 else place] else [])
      ++ (if place % 2 == 1 && place < 7 then [place + 1] else [])).eraseDups

/-- A host that looks like four numbers. -/
def looksDotted (host : List Char) : Bool :=
  (host.foldl dottedStep [0]).contains 7

/-- The host in the form that is sent. -/
def sentHost (host : List Char) : Except TargetFault (List Char) :=
  let text := String.ofList host
  if host.isEmpty then .ok []
  else if looksDotted host then
    if (Address.readV4 host).isSome then .ok host else .error (.badV4 text)
  else if host.head? == some '[' && host.getLast? == some ']' && 1 < host.length then
    let inner := (host.drop 1).dropLast
    match Address.ofText? (String.ofList inner) with
    | some (.v6 _) => .ok inner
    | _ => .error (.badV6 text)
  else if host.all fun c => c.toNat < 128 then
    .ok (percentText isHostChar (host.map Char.toLower))
  else
    match Domain.encode (Text.lower text).toList with
    | .ok name => .ok name
    | .error _ => .error (.badName text)

/-- The usual port of a scheme. -/
def usualPort? (scheme : List Char) : Option Int :=
  [("ftp", 21), ("http", 80), ("https", 443), ("ws", 80), ("wss", 443)].lookup
    (String.ofList scheme)

/-- The number of a port, unless it is the usual one of the scheme as it was written. -/
def sentPort (scheme port : List Char) : Except TargetFault (Option Int) :=
  if port.isEmpty then .ok none
  else
    match Text.readBounded port with
    | .ok number => .ok (if usualPort? scheme == some number then none else some number)
    | .error _ => .error (.badPort (String.ofList port))

/-- The parts of a path with those for a folder and its parent resolved; `done` is in reverse. -/
def resolveDots (done : List String) : List String → List String
  | [] => done.reverse
  | "." :: rest => resolveDots done rest
  | ".." :: rest =>
    match done with
    | [] => resolveDots [] rest
    | [""] => resolveDots [""] rest
    | _ :: earlier => resolveDots earlier rest
  | part :: rest => resolveDots (part :: done) rest

def resolvedPath (path : List Char) : List Char :=
  let parts := (String.ofList path).splitOn "/"
  if parts.contains "." || parts.contains ".." then
    ("/".intercalate (resolveDots [] parts)).toList
  else path

/-- A path without scheme and authority does not look like a part of them. -/
def checkRelative (path : List Char) : Except TargetFault Unit :=
  match path with
  | '/' :: '/' :: _ => .error .doubleSlash
  | ':' :: _ => .error .leadingColon
  | _ => .ok ()

/-- The text up to a separator, and what follows it if there is one. -/
def cut (separator : Char) (cs : List Char) : List Char × Option (List Char) :=
  match cs.dropWhile (· != separator) with
  | _ :: rest => (cs.takeWhile (· != separator), some rest)
  | [] => (cs, none)

/-- The first control character of a text, and its position. -/
def unprintable? (text : List Char) : Option (Char × Nat) :=
  (text.zipIdx.find? fun (c, _) => c.toNat < 0x20 || c.toNat == 0x7f)

/-- The greatest length of a URL. -/
def maxLength : Nat := 65536

/-- The target that a text spells. -/
def ofText (text : String) : Except TargetFault Target := do
  let cs := text.toList
  if maxLength < cs.length then throw .tooLong
  if let some (c, position) := unprintable? cs then throw (.unprintable c position)
  let (scheme, rest) := splitScheme cs
  let (authority, rest) :=
    match rest with
    | '/' :: '/' :: rest =>
      let authority := rest.takeWhile fun c => c != '/' && c != '?' && c != '#'
      (authority, rest.drop authority.length)
    | rest => ([], rest)
  let (front, fragment) := cut '#' rest
  let (path, query) := cut '?' front
  let (user, place) := splitUser authority
  let (host, port) := splitPort place
  let user := percentText (isVisibleBut refusedInUser) user
  let host ← sentHost host
  let port ← sentPort scheme port
  let isRooted := !scheme.isEmpty || !user.isEmpty || !host.isEmpty || port.isSome
  if !isRooted then checkRelative path
  let path := if isRooted then resolvedPath path else path
  return {
    scheme := scheme.map Char.toLower
    user
    host
    port
    path := percentText (isVisibleBut refusedInPath) path
    query := query.map (percentText (isVisibleBut refusedInQuery))
    fragment := fragment.map (percentText (isVisibleBut refusedInFragment)) }

/-! What a target says -/

/-- Without a scheme or a host no request finds its way. -/
def isRelative (target : Target) : Bool :=
  target.scheme.isEmpty || target.host.isEmpty

/-- Host and port as they stand in a URL. -/
def place (target : Target) : List Char :=
  (if target.host.contains ':' then '[' :: target.host ++ [']'] else target.host)
    ++ ((target.port.map fun port => ':' :: Text.integerText port).getD [])

def authority (target : Target) : List Char :=
  (if target.user.isEmpty then [] else target.user ++ ['@']) ++ target.place

/-- The text of the URL. -/
def text (target : Target) : String :=
  let part (mark : Char) (text : Option (List Char)) : List Char :=
    (text.map (mark :: ·)).getD []
  String.ofList ((if target.scheme.isEmpty then [] else target.scheme ++ [':'])
    ++ (if target.authority.isEmpty then [] else '/' :: '/' :: target.authority)
    ++ target.path ++ part '?' target.query ++ part '#' target.fragment)

/-- A target that has a scheme but no host takes the host of another one; then its path starts at the
root. -/
def checkStart (target : Target) : Except TargetFault Unit :=
  if target.scheme.isEmpty || !target.host.isEmpty || target.path.isEmpty
      || target.path.head? == some '/' then .ok ()
  else .error .looseStart

/-- A relative target becomes a path from the root; its fragment is not sent. -/
def fromRoot (target : Target) : Target :=
  if target.isRelative then
    let path := if target.path.isEmpty then ['/'] else target.path
    { scheme := [], user := [], host := [], port := none
      path := '/' :: path.dropWhile (· == '/')
      query := target.query
      fragment := none }
  else target

/-- The host in the letters of its own script. -/
def hostName (target : Target) : Except Domain.Fault String :=
  if Domain.encodedMark.isPrefixOf target.host then
    (Domain.decode target.host).map String.ofList
  else .ok (String.ofList target.host)

/-- The header value for the name and the password in the URL, if it has either. -/
def credentials? (target : Target) : Option String :=
  let (name, password) := cut ':' target.user
  let name := plainText name
  let password := plainText (password.getD [])
  if name == "" && password == "" then none
  else
    some ("Basic "
      ++ String.ofList (Text.base64 ((name ++ ":" ++ password).toUTF8.toList)))

end Target

end Orchestra.Http
