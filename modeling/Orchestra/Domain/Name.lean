import Orchestra.Domain.Composition
import Orchestra.Domain.Joining
import Orchestra.Domain.Permitted
import Orchestra.Domain.Punycode
import Orchestra.Value.Text

/-!
Domain names of any script, as they are written in ASCII.

The dots of several scripts separate the labels of a name; the last label may be empty. A label is in
its composed form, its hyphens stand inside it and not both third and fourth, it does not start with a
mark, it holds permitted characters, and it keeps to one direction.
-/

namespace Orchestra.Domain

/-- Why a label or a domain name is refused. -/
inductive Fault where
  | emptyName
  | emptyLabel
  | notComposed
  | reservedHyphens
  | outerHyphen
  | leadingMark
  /-- A character that is refused, its position and the label. -/
  | refused (c : Char) (position : Nat) (label : String)
  | joiner (c : Char) (position : Nat) (label : String)
  | context (c : Char) (position : Nat) (label : String)
  | firstDirection (label : String)
  | direction (position : Nat) (fromRight : Bool)
  | mixedDigits
  | lastDirection
  | labelTooLong
  | nameTooLong
  | nothingEncoded
  | encodedHyphen
  | badEncoding
deriving DecidableEq, Repr

namespace Fault

def name : Fault → String
  | .refused .. => "InvalidCodepoint"
  | .joiner .. | .context .. => "InvalidCodepointContext"
  | .firstDirection _ | .direction .. | .mixedDigits | .lastDirection => "IDNABidiError"
  | _ => "IDNAError"

/-- A code point in hexadecimal digits. -/
def codeText (c : Char) : String :=
  "U+" ++ String.ofList ((Text.padded 16 4 c.toNat).map Char.toUpper)

/-- Positions are counted from one. -/
def placeText (position : Nat) : String :=
  String.ofList (Text.naturalText (position + 1))

def message : Fault → String
  | .emptyName => "Empty domain"
  | .emptyLabel => "Empty Label"
  | .notComposed => "Label must be in Normalization Form C"
  | .reservedHyphens => "Label has disallowed hyphens in 3rd and 4th position"
  | .outerHyphen => "Label must not start or end with a hyphen"
  | .leadingMark => "Label begins with an illegal combining character"
  | .refused c position label =>
    "Codepoint " ++ codeText c ++ " at position " ++ placeText position ++ " of "
      ++ Value.quoted label ++ " not allowed"
  | .joiner c position label =>
    "Joiner " ++ codeText c ++ " not allowed at position " ++ placeText position ++ " in "
      ++ Value.quoted label
  | .context c position label =>
    "Codepoint " ++ codeText c ++ " not allowed at position " ++ placeText position ++ " in "
      ++ Value.quoted label
  | .firstDirection label =>
    "First codepoint in label " ++ Value.quoted label ++ " must be directionality L, R or AL"
  | .direction position fromRight =>
    "Invalid direction for codepoint at position " ++ placeText position ++ " in a "
      ++ (if fromRight then "right-to-left" else "left-to-right") ++ " label"
  | .mixedDigits => "Can not mix numeral types in a right-to-left label"
  | .lastDirection => "Label ends with illegal codepoint directionality"
  | .labelTooLong => "Label too long"
  | .nameTooLong => "Domain too long"
  | .nothingEncoded => "Malformed A-label, no Punycode eligible content found"
  | .encodedHyphen => "A-label must not end with a hyphen"
  | .badEncoding => "Invalid A-label"

end Fault

def isMark (c : Char) : Bool :=
  Text.inRanges markRanges c || Text.inRanges spacingMarkRanges c

/-- A character that a connection between letters passes through. -/
def isThrough (c : Char) : Bool :=
  (Text.inRanges markRanges c && c.toNat != 0x200c && c.toNat != 0x200d)
    || Text.inRanges throughRanges c

/-- The first character that is not passed through lies in the given ranges. -/
def connects (ranges : Array (Nat × Nat)) (cs : List Char) : Bool :=
  ((cs.find? fun c => !isThrough c).map (Text.inRanges ranges ·)).getD false

/-- A joiner stands after a mark for a missing vowel, or a separator between connected letters;
`before` is in reverse. -/
def joinerFits (c : Char) (before after : List Char) : Bool :=
  (before.head?.map (Text.inRanges silentRanges ·)).getD false
    || (c.toNat == 0x200c && connects forwardRanges before && connects backwardRanges after)

/-- A sign that belongs to one script stands next to a letter of it; digits of two Arabic kinds do
not stand in one label. `before` is in reverse. -/
def signFits (label : List Char) (c : Char) (before after : List Char) : Bool :=
  let near (ranges : Array (Nat × Nat)) (c : Option Char) : Bool :=
    (c.map (Text.inRanges ranges ·)).getD false
  let hasDigit (first : Nat) : Bool :=
    label.any fun d => first ≤ d.toNat && d.toNat ≤ first + 9
  match c.toNat with
  | 0xb7 => before.head? == some 'l' && after.head? == some 'l'
  | 0x375 => near greekRanges after.head?
  | 0x5f3 | 0x5f4 => near hebrewRanges before.head?
  | 0x30fb => label.any fun d => d != c && Text.inRanges japaneseRanges d
  | code => if code < 0x66a then !hasDigit 0x6f0 else !hasDigit 0x660

def isJoiner (c : Char) : Bool :=
  c.toNat == 0x200c || c.toNat == 0x200d

/-- A sign that only some neighbours permit. -/
def isSign (c : Char) : Bool :=
  let code := c.toNat
  code == 0xb7 || code == 0x375 || code == 0x5f3 || code == 0x5f4 || code == 0x30fb
    || (0x660 ≤ code && code ≤ 0x669) || (0x6f0 ≤ code && code ≤ 0x6f9)

/-- All characters of a label are permitted where they stand; `before` is in reverse. -/
def checkCharacters (label before : List Char) : List Char → Except Fault Unit
  | [] => .ok ()
  | c :: after =>
    let text := String.ofList label
    if isPermitted c then checkCharacters label (c :: before) after
    else if isJoiner c then
      if joinerFits c before after then checkCharacters label (c :: before) after
      else .error (.joiner c before.length text)
    else if isSign c then
      if signFits label c before after then checkCharacters label (c :: before) after
      else .error (.context c before.length text)
    else .error (.refused c before.length text)

/-- The directions of a label, from `position` on, fit the one that it starts with. -/
def checkDirections (fromRight : Bool) (digits : Option Direction) (endsWell : Bool)
    (position : Nat) : List Char → Except Fault Unit
  | [] => if endsWell then .ok () else .error .lastDirection
  | c :: rest =>
    match fromRight, directionOf c with
    | true, .left => .error (.direction position true)
    | false, .right | false, .arabicDigit => .error (.direction position false)
    | _, .left | _, .right => checkDirections fromRight digits true (position + 1) rest
    | _, .mark => checkDirections fromRight digits endsWell (position + 1) rest
    | _, .neutral => checkDirections fromRight digits false (position + 1) rest
    | fromRight, kind =>
      if fromRight && (digits.map (· != kind)).getD false then .error .mixedDigits
      else checkDirections fromRight (some kind) true (position + 1) rest

/-- Some character is written from the right. -/
def hasRight (label : List Char) : Bool :=
  label.any fun c => directionOf c == .right || directionOf c == .arabicDigit

def checkDirection (label : List Char) : Except Fault Unit :=
  if !hasRight label then .ok ()
  else
    match label.head?.map directionOf with
    | some .right => checkDirections true none false 0 label
    | some .left => checkDirections false none false 0 label
    | _ => .error (.firstDirection (String.ofList label))

/-- A label keeps to all rules. -/
def checkLabel (label : List Char) : Except Fault Unit := do
  match label with
  | [] => throw .emptyLabel
  | first :: _ =>
    if !isComposed label then throw .notComposed
    if label[2]? == some '-' && label[3]? == some '-' then throw .reservedHyphens
    if first == '-' || label.getLast? == some '-' then throw .outerHyphen
    if isMark first then throw .leadingMark
    checkCharacters label [] label
    checkDirection label

/-- The mark in front of a label that was written in ASCII. -/
def encodedMark : List Char := "xn--".toList

/-- The label that a text in ASCII is or stands for. -/
def decodeLabel (cs : List Char) : Except Fault (List Char) := do
  let text := cs.map Char.toLower
  if encodedMark.isPrefixOf text then
    let body := text.drop 4
    if body.isEmpty then throw .nothingEncoded
    if body.getLast? == some '-' then throw .encodedHyphen
    match ofPunycode? body with
    | none => throw .badEncoding
    | some label =>
      checkLabel label
      return label
  else
    checkLabel text
    return text

/-- A label in ASCII, at most sixty-three characters long. -/
def encodeLabel (cs : List Char) : Except Fault (List Char) := do
  let text ←
    if cs.all fun c => c.toNat < 128 then (decodeLabel cs).map fun _ => cs
    else do
      checkLabel cs
      pure (encodedMark ++ punycode cs)
  if 63 < text.length then throw .labelTooLong
  return text

def isDot (c : Char) : Bool :=
  c == '.' || c.toNat == 0x3002 || c.toNat == 0xff0e || c.toNat == 0xff61

/-- The labels of a name; there is always at least one. -/
def labels : List Char → List (List Char)
  | [] => [[]]
  | c :: rest =>
    match labels rest with
    | [] => [[c]]
    | label :: more => if isDot c then [] :: label :: more else (c :: label) :: more

/-- Changes every label of a name, and puts dots between them; a dot at the end stays. -/
def mapLabels (change : List Char → Except Fault (List Char)) (name : List Char) :
    Except Fault (List Char × Bool) := do
  let parts := labels name
  if parts == [[]] then throw .emptyName
  let ended := parts.getLast? == some []
  let changed ← (if ended then parts.dropLast else parts).mapM change
  return ((if ended then changed ++ [[]] else changed).intersperse ['.'] |>.flatten, ended)

/-- A name in ASCII, at most two hundred and fifty-three characters long, a dot at its end aside. -/
def encode (name : List Char) : Except Fault (List Char) := do
  let (text, ended) ← mapLabels encodeLabel name
  if (if ended then 254 else 253) < text.length then throw .nameTooLong
  return text

/-- The name that a text in ASCII stands for. -/
def decode (text : List Char) : Except Fault (List Char) :=
  (mapLabels decodeLabel text).map Prod.fst

end Orchestra.Domain
