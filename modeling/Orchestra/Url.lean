import Orchestra.Address.Reader
import Orchestra.Text.Case

/-!
The scheme and host of a URL, and the names that lead to the own machine.

Control characters and blanks in front of a URL and tabs and line ends anywhere in it are dropped.
The scheme stands before the first colon. The authority stands between two slashes and the next
slash, question mark or number sign; the host in it follows the last at sign and stands before the
port, in brackets where it holds colons.
-/

namespace Orchestra

structure Url where
  /-- The scheme in lower case, empty when there is none. -/
  scheme : String
  authority : String
deriving DecidableEq, Repr

namespace Url

/-- A text without the characters that a URL cannot hold. -/
def cleaned (s : String) : List Char :=
  (s.toList.dropWhile fun c => c.toNat ≤ 0x20).filter fun c => c != '\t' && c != '\n' && c != '\r'

def isSchemeChar (c : Char) : Bool :=
  c.isAlphanum || c == '+' || c == '-' || c == '.'

/-- The scheme in front of the first colon, and what follows it. -/
def splitScheme (cs : List Char) : String × List Char :=
  let front := cs.takeWhile (· != ':')
  match cs.dropWhile (· != ':') with
  | _ :: rest =>
    if (front.head?.map Char.isAlpha).getD false && front.all isSchemeChar then
      (String.ofList (front.map Char.toLower), rest)
    else ("", cs)
  | [] => ("", cs)

/-- The text between two slashes and the path, the query or the fragment. -/
def authorityOf : List Char → List Char
  | '/' :: '/' :: rest => rest.takeWhile fun c => c != '/' && c != '?' && c != '#'
  | _ => []

/-- A text up to the first separator, and what follows it if there is one. -/
def cut (separator : Char) (cs : List Char) : List Char × Option (List Char) :=
  match cs.dropWhile (· != separator) with
  | _ :: rest => (cs.takeWhile (· != separator), some rest)
  | [] => (cs, none)

/-- The host and port: what follows the last at sign. -/
def withoutUser (authority : List Char) : List Char :=
  (authority.reverse.takeWhile (· != '@')).reverse

/-- The text of the host, brackets and port left out. -/
def hostText (authority : List Char) : List Char :=
  match cut '[' (withoutUser authority) with
  | (_, some bracketed) => (cut ']' bracketed).1
  | (bare, none) => (cut ':' bare).1

/-- A host that may stand in brackets: an IPv6 address, or the form kept for future addresses. -/
def mayBeBracketed (host : List Char) : Bool :=
  match host with
  | 'v' :: rest =>
    match cut '.' rest with
    | (version, some (_ :: _)) =>
      !version.isEmpty && version.all fun c => (Address.hexDigit? c).isSome
    | _ => false
  | _ =>
    match Address.ofText? (String.ofList host) with
    | some (.v6 _) => true
    | _ => false

/-- Where brackets occur they come in pairs, stand around the whole host and hold an address. -/
def bracketsFit (authority : List Char) : Bool :=
  if authority.contains '[' != authority.contains ']' then false
  else if !authority.contains '[' then true
  else
    match cut '[' (withoutUser authority) with
    | (front, some bracketed) =>
      let (host, tail) := cut ']' bracketed
      front.isEmpty && ((tail.getD []).head?.map (· == ':')).getD true && mayBeBracketed host
    | (bare, none) => mayBeBracketed (cut ':' bare).1

/-- The characters that look like a separator in compatibility normal form. -/
def disguised : List Nat :=
  [0x2047, 0x2048, 0x2049, 0x2100, 0x2101, 0x2105, 0x2106, 0x2a74, 0xfe13, 0xfe16, 0xfe55, 0xfe56,
    0xfe5f, 0xfe6b, 0xff03, 0xff0f, 0xff1a, 0xff1f, 0xff20]

/-- Reads a URL; none when its authority is malformed. -/
def ofText? (s : String) : Option Url :=
  let (scheme, rest) := splitScheme (cleaned s)
  let authority := authorityOf rest
  if bracketsFit authority && !authority.any (fun c => disguised.contains c.toNat) then
    some ⟨scheme, String.ofList authority⟩
  else none

/-- The host in lower case, what follows a percent sign aside; none when it is empty. -/
def host? (url : Url) : Option String :=
  match hostText url.authority.toList with
  | [] => none
  | host =>
    let (name, zone) := cut '%' host
    some (Text.lower (String.ofList name) ++
      match zone with
      | some zone => "%" ++ String.ofList zone
      | none => "")

end Url

/-- The names of the own machine. -/
def localNames : List String :=
  ["localhost", "localhost.localdomain", "ip6-localhost", "ip6-loopback"]

/-- A host name that leads to the own machine, dots at its end aside. -/
def isLocalName (host : String) : Bool :=
  let name := ((Text.lower host).toList.reverse.dropWhile (· == '.')).reverse
  localNames.contains (String.ofList name) || (".localhost".toList).isSuffixOf name

end Orchestra
