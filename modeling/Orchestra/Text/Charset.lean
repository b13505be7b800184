import Orchestra.Address.Reader
import Orchestra.Domain.Punycode
import Orchestra.Text.Charset.Name
import Orchestra.Text.Charset.Shifting
import Orchestra.Text.Charset.Unicode

/-!
Character sets by the names that responses declare, and text in which characters may be written by
their numbers after a backslash.
-/

namespace Orchestra.Text

/-- Hexadecimal digits at the start of a text, at most `count`, and their value. -/
def hexDigits (value : Nat) : (count : Nat) → List Char → Nat × Nat × List Char
  | 0, cs => (0, value, cs)
  | _ + 1, [] => (0, value, [])
  | count + 1, c :: rest =>
    match Address.hexDigit? c with
    | none => (0, value, c :: rest)
    | some digit =>
      let (found, value, rest) := hexDigits (16 * value + digit) count rest
      (found + 1, value, rest)

/-- A character written with `count` hexadecimal digits. -/
def numbered (count : Nat) (cs : List Char) : Option Char × List Char :=
  let (found, code, rest) := hexDigits 0 count cs
  (if found == count then glyph code else none, rest)

/-- A character written with up to three octal digits, of which `value` was read. -/
def octal (value : Nat) : (count : Nat) → List Char → Nat × List Char
  | 0, cs => (value, cs)
  | _ + 1, [] => (value, [])
  | count + 1, c :: rest =>
    if '0' ≤ c && c ≤ '7' then octal (8 * value + (c.toNat - 48)) count rest
    else (value, c :: rest)

/-- The characters that a letter after a backslash stands for. -/
def simpleEscapes : List (Char × List Char) :=
  [('\n', []), ('\\', ['\\']), ('\'', ['\'']), ('"', ['"']), ('b', ['\x08']), ('f', ['\x0c']),
    ('t', ['\t']), ('n', ['\n']), ('r', ['\r']), ('v', ['\x0b']), ('a', ['\x07'])]

/-- What follows the braces of a character that is written by its name. -/
def afterName (cs : List Char) : List Char :=
  match cs with
  | '\x7b' :: rest =>
    match rest.dropWhile (· != '\x7d') with
    | _ :: tail => if rest.head? == some '\x7d' then '\x7d' :: tail else tail
    | [] => []
  | cs => cs

/-- The escape after a backslash, and the text after it. -/
def escape : List Char → Glyphs × List Char
  | [] => ([none], [])
  | c :: rest =>
    match simpleEscapes.lookup c with
    | some found => (found.map some, rest)
    | none =>
      let one (found : Option Char × List Char) : Glyphs × List Char := ([found.1], found.2)
      if '0' ≤ c && c ≤ '7' then
        let (code, rest) := octal (c.toNat - 48) 2 rest
        ([some (Char.ofNat code)], rest)
      else
        match c with
        | 'x' => one (numbered 2 rest)
        | 'u' => one (numbered 4 rest)
        | 'U' => one (numbered 8 rest)
        | 'N' => ([none], afterName rest)
        | c => ([some '\\', some c], rest)

/-- The escape after a backslash where only numbers are escaped. -/
def rawEscape : List Char → Glyphs × List Char
  | 'u' :: rest => let (found, rest) := numbered 4 rest; ([found], rest)
  | 'U' :: rest => let (found, rest) := numbered 8 rest; ([found], rest)
  | c :: rest => ([some '\\', some c], rest)
  | [] => ([some '\\'], [])

/-- Text with escapes; `fuel` bounds the steps. -/
def escapedFrom (escape : List Char → Glyphs × List Char) : (fuel : Nat) → List Char → Glyphs
  | 0, _ => []
  | _ + 1, [] => []
  | fuel + 1, '\\' :: rest =>
    let (glyphs, rest) := escape rest
    glyphs ++ escapedFrom escape fuel rest
  | fuel + 1, c :: rest => some c :: escapedFrom escape fuel rest

/-- Text of one character a byte, with escapes. -/
def escaped (bytes : List UInt8) : Glyphs :=
  escapedFrom escape (bytes.length + 1) (latin1 bytes).replaced

/-- Text of one character a byte, with escapes of numbers alone. -/
def rawEscaped (bytes : List UInt8) : Glyphs :=
  escapedFrom rawEscape (bytes.length + 1) (latin1 bytes).replaced

/-- What is known under the name of a character set. -/
inductive Charset where
  | decoder (decode : List UInt8 → Glyphs)
  /-- A change of bytes that does not lead to text; `checks` tells whether it looks at the way in
  which faults are handled. -/
  | transform (checks : Bool)
  /-- A set that decodes nothing in this way, and why. -/
  | refusing (reason : String)

namespace Charset

/-- A label in ASCII as the text that it stands for. -/
def punycoded (bytes : List UInt8) : Glyphs :=
  match Domain.ofPunycode? (ascii bytes).replaced with
  | some label => label.map some
  | none => ascii bytes

/-- The sets of many bytes a character, by name. -/
def unicodeSets : List (String × (List UInt8 → Glyphs)) :=
  [("utf_8", utf8From none), ("utf_8_sig", utf8Marked), ("ascii", ascii), ("latin_1", latin1),
    ("charmap", latin1), ("utf_16", utf16Marked), ("utf_16_le", utf16 false),
    ("utf_16_be", utf16 true), ("utf_32", utf32Marked), ("utf_32_le", utf32 false),
    ("utf_32_be", utf32 true), ("utf_7", utf7), ("unicode_escape", escaped),
    ("raw_unicode_escape", rawEscaped), ("punycode", punycoded)]

/-- The sets of the scripts of East Asia, by name. -/
def wideSets : List (String × (List UInt8 → Glyphs)) :=
  chineseSets ++ japaneseSets ++ koreanSets ++ shiftingSets

/-- Changes of bytes that do not lead to text. -/
def transforms : List String :=
  ["base64_codec", "bz2_codec", "hex_codec", "quopri_codec", "uu_codec", "zlib_codec"]

/-- The set of a name, if it is known. -/
def ofName? (name : String) : Option Charset := do
  let name ← nameOf? name
  if let some decode := unicodeSets.lookup name then return .decoder decode
  if let some decode := wideSets.lookup name then return .decoder decode
  if let some set := octetSets.find? fun set => set.name == name then return .decoder set.decode
  if transforms.contains name then return .transform true
  if name == "rot_13" then return .transform false
  if name == "undefined" then return .refusing "undefined encoding"
  if name == "idna" then return .refusing "Unsupported error handling replace"
  none

/-- Why bytes are not taken as text. -/
inductive Refusal where
  | unknown
  | notText
  | refused (reason : String)

/-- The text of bytes in the set of a name; no bytes are no text in any set. -/
def decode (name : String) (bytes : List UInt8) : Except Refusal String :=
  if bytes.isEmpty then .ok ""
  else
    match ofName? name with
    | none => .error .unknown
    | some (.transform _) => .error .notText
    | some (.refusing reason) => .error (.refused reason)
    | some (.decoder decode) => .ok (String.ofList (decode bytes).replaced)

/-- The text of bytes that all fit the set of a name. -/
def decodeAll? (name : String) (bytes : List UInt8) : Option String :=
  match ofName? name with
  | some (.decoder decode) => ((decode bytes).all?).map String.ofList
  | _ => none

end Charset

end Orchestra.Text
