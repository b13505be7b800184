import Orchestra.Address.Reader
import Orchestra.Text.Blank
import Orchestra.Text.Case
import Orchestra.Text.Charset
import Orchestra.Text.Integer

/-!
Media types and their parameters.

Semicolons separate the parameters where no quotation is open. A value may be in quotation marks. One
that is split up has its pieces under numbered names, and one with percent notation has a star at the
end of its name and tells its own character set in front.
-/

namespace Orchestra.Http.MediaType

/-- A text with every occurrence of two characters replaced by another text. -/
def replacePair (first second : Char) (text : List Char) : List Char → List Char
  | a :: b :: rest =>
    if a == first && b == second then text ++ replacePair first second text rest
    else a :: replacePair first second text (b :: rest)
  | cs => cs

/-- A value without the quotation marks or angle brackets around it. -/
def unquoted (cs : List Char) : List Char :=
  match cs with
  | '"' :: c :: rest =>
    if (c :: rest).getLast? == some '"' then
      replacePair '\\' '"' ['"'] (replacePair '\\' '\\' ['\\'] (c :: rest).dropLast)
    else cs
  | '<' :: c :: rest => if (c :: rest).getLast? == some '>' then (c :: rest).dropLast else cs
  | _ => cs

/-- A value in quotation marks. -/
def quoted (cs : List Char) : List Char :=
  '"' :: cs.flatMap (fun c => if c == '\\' || c == '"' then ['\\', c] else [c]) ++ ['"']

/-- Quotation marks that are not escaped, less those that stand behind a backslash twice. -/
def openMarks (cs : List Char) : Int :=
  let escaped := (cs.zip cs.tail).filter fun (a, b) => a == '\\' && b == '"'
  (cs.count '"' : Int) - escaped.length

/-- The text up to the first semicolon at which no quotation is open, and what follows it; `front` is
the text so far in reverse. -/
def splitParameter (front : List Char) : List Char → List Char × Option (List Char)
  | [] => (front.reverse, none)
  | c :: rest =>
    if c == ';' && (front.isEmpty || openMarks front.reverse % 2 == 0) then
      (front.reverse, some rest)
    else splitParameter (c :: front) rest

/-- The parts between semicolons; `fuel` bounds their number. -/
def splitParameters : (fuel : Nat) → List Char → List (List Char)
  | 0, _ => []
  | fuel + 1, cs =>
    match splitParameter [] cs with
    | (part, some rest) => part :: splitParameters fuel rest
    | (part, none) => [part]

/-- A parameter as its name and value; one without a value has an empty one. -/
def parameter (part : List Char) : List Char × List Char :=
  match part.dropWhile (· != '=') with
  | _ :: value =>
    ((Text.lower (String.ofList (Text.trimChars (part.takeWhile (· != '='))))).toList,
      Text.trimChars value)
  | [] => (Text.trimChars part, [])

/-- A piece of a value: its number if it has one, its text, and whether it is in percent notation. -/
structure Piece where
  number : Option Int
  text : List Char
  encoded : Bool

/-- The name of a piece: the name of its parameter, its number, and whether a star follows. -/
def pieceName? (name : List Char) : Option (List Char × List Char) :=
  let front := name.takeWhile fun c => c.isAlphanum || c == '_'
  match name.drop front.length with
  | '*' :: rest =>
    let digits := rest.takeWhile Char.isDigit
    let tail := rest.drop digits.length
    if front.isEmpty then none
    else if tail.isEmpty || (tail == ['*'] && !digits.isEmpty) then some (front, digits)
    else none
  | _ => none

/-- Why the pieces of a value cannot be put together. -/
inductive Fault where
  | tooManyDigits (count : Nat)
  /-- Pieces with and without a number; tells whether the later one has one. -/
  | mixedNumbers (laterHas : Bool)

/-- The pieces of values, by the names of their parameters. -/
abbrev Groups := List (List Char × List Piece)

/-- Adds a piece to those of its parameter, or as the first one. -/
def Groups.add (name : List Char) (piece : Piece) : Groups → Groups
  | [] => [(name, [piece])]
  | (other, pieces) :: rest =>
    if other == name then (other, pieces ++ [piece]) :: rest
    else (other, pieces) :: Groups.add name piece rest

/-- The piece that a parameter is, and the name that it belongs to. -/
def piece? (name value : List Char) : Except Fault (Option (List Char × Piece)) :=
  match pieceName? name with
  | none => .ok none
  | some (front, digits) =>
    let piece (number : Option Int) : Option (List Char × Piece) :=
      some (front, ⟨number, unquoted value, name.getLast? == some '*'⟩)
    if digits.isEmpty then .ok (piece none)
    else
      match Text.readBounded digits with
      | .ok number => .ok (piece (some number))
      | .error (.tooLong count) => .error (.tooManyDigits count)
      | .error .malformed => .ok none

/-- All pieces among parameters. -/
def groups (parameters : List (List Char × List Char)) : Except Fault Groups :=
  parameters.foldlM (fun found (name, value) => do
    match ← piece? name value with
    | some (front, piece) => return Groups.add front piece found
    | none => return found) []

/-- Either all pieces have a number or none of them has. -/
def checkNumbers : List Piece → Except Fault Unit
  | earlier :: later :: rest =>
    if earlier.number.isSome != later.number.isSome then
      .error (.mixedNumbers later.number.isSome)
    else checkNumbers (later :: rest)
  | _ => .ok ()

/-- Pieces come in the order of their numbers, then of their texts. -/
def Piece.before (a b : Piece) : Bool :=
  match a.number, b.number with
  | some m, some n => m < n || (m == n && String.ofList a.text ≤ String.ofList b.text)
  | _, _ => String.ofList a.text ≤ String.ofList b.text

/-- A text with its percent notation resolved, every byte to the character of its number. -/
def percentChars : List Char → List Char
  | '%' :: high :: low :: rest =>
    match Address.hexDigit? high, Address.hexDigit? low with
    | some high, some low => Char.ofNat (16 * high + low) :: percentChars rest
    | _, _ => '%' :: percentChars (high :: low :: rest)
  | c :: rest => c :: percentChars rest
  | [] => []

/-- The parts of a text in front of, between and behind its first two ticks. -/
def ticked? (cs : List Char) : Option (List Char × List Char) :=
  match cs.dropWhile (· != '\'') with
  | _ :: rest =>
    match rest.dropWhile (· != '\'') with
    | _ :: value => some (cs.takeWhile (· != '\''), value)
    | [] => none
  | [] => none

/-- The characters of a value as bytes; one beyond the range of a byte is written by its number. -/
def rawBytes (cs : List Char) : List UInt8 :=
  cs.flatMap fun c =>
    if c.toNat < 256 then [UInt8.ofNat c.toNat]
    else ('\\' :: 'u' :: Text.padded 16 4 c.toNat).map fun d => UInt8.ofNat d.toNat

/-- The value that pieces make: in percent notation with a character set in front, or plain. -/
def joined (pieces : List Piece) : List Char :=
  let sorted := pieces.mergeSort Piece.before
  let text := (sorted.map fun piece =>
    if piece.encoded then percentChars piece.text else piece.text).flatten
  if sorted.any (·.encoded) then
    let inner := ((quoted text).drop 1).dropLast
    let (set, value) := (ticked? inner).getD ([], inner)
    let value := unquoted ('"' :: value ++ ['"'])
    let set := if set.isEmpty then "us-ascii" else String.ofList set
    match Text.Charset.decodeAll? set (rawBytes value) with
    | some decoded => decoded.toList
    | none => value
  else text

def lowered (cs : List Char) : List Char :=
  (Text.lower (String.ofList cs)).toList

/-- The character set that a media type declares, in lower case; one that is no plain name does not
count. -/
def charset (mediaType : String) : Except Fault (Option String) := do
  let cs := mediaType.toList
  let parameters := (splitParameters (cs.length + 1) cs).map parameter
  let groups ← groups (parameters.drop 1)
  groups.forM fun (_, pieces) => checkNumbers pieces
  let isCharset (name : List Char) : Bool := lowered name == "charset".toList
  let value :=
    ((parameters.find? fun (name, _) => isCharset name).map fun (_, value) => unquoted value).or
      ((groups.find? fun (name, _) => isCharset name).map fun (_, pieces) => joined pieces)
  return (value.filter fun found => found.all fun c => c.toNat < 128).map fun found =>
    String.ofList (lowered found)

end Orchestra.Http.MediaType
