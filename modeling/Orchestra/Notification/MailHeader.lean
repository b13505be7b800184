import Orchestra.Text.Base64
import Orchestra.Text.Blank
import Orchestra.Text.Integer

/-!
Headers of mails.

A value of plain characters is written as it is, line by line, without the lines that are empty. Any
other value is written in encoded words, one for each line, in the shorter one of two encodings. A
value is refused when one of its lines looks like another header, or would end the header.
-/

namespace Orchestra.Notification.MailHeader

/-- The characters that end a line. -/
def endsLine (c : Char) : Bool :=
  (10 ≤ c.toNat && c.toNat ≤ 13) || (28 ≤ c.toNat && c.toNat ≤ 30)
    || c.toNat == 0x85 || c.toNat == 0x2028 || c.toNat == 0x2029

/-- The lines of a text; `line` is the current one so far, in reverse. -/
def linesFrom (line : List Char) : List Char → List (List Char)
  | [] => if line.isEmpty then [] else [line.reverse]
  | '\r' :: '\n' :: rest => line.reverse :: linesFrom [] rest
  | c :: rest => if endsLine c then line.reverse :: linesFrom [] rest else linesFrom (c :: line) rest

def isBlankChar (c : Char) : Bool :=
  c == ' ' || c == '\t'

/-- A byte that stands for itself in an encoded word. -/
def standsForItself (byte : UInt8) : Bool :=
  let c := Char.ofNat byte.toNat
  byte.toNat < 128 && (c.isAlphanum || ['-', '!', '*', '+', '/'].contains c)

/-- A byte in the encoding that keeps letters. -/
def quotedByte (byte : UInt8) : List Char :=
  if standsForItself byte then [Char.ofNat byte.toNat]
  else if byte == 32 then ['_']
  else '=' :: (Text.padded 16 2 byte.toNat).map Char.toUpper

/-- A text as an encoded word. -/
def encodedWord (cs : List Char) : List Char :=
  let bytes := (String.ofList cs).toUTF8.toList
  let compact := Text.base64 bytes
  let quoted := bytes.flatMap quotedByte
  "=?utf-8?".toList
    ++ (if compact.length < quoted.length then 'b' :: '?' :: compact else 'q' :: '?' :: quoted)
    ++ "?=".toList

/-- A line without the space at its end, where the white space there is this one space. -/
def withoutLastSpace (line : List Char) : List Char :=
  match line.reverse with
  | [' '] => []
  | ' ' :: c :: rest => if isBlankChar c then line else (c :: rest).reverse
  | _ => line

/-- The lines of a value after the first one, as they are written onto the lines so far: an empty
line is left out, and a line of white space ends the line before it. -/
def plainLines (done : List (List Char)) : List (List Char) → List (List Char)
  | [] => done
  | line :: rest =>
    if line.isEmpty then plainLines done rest
    else if line.all Text.isBlank then
      plainLines (done.dropLast ++ [(done.getLast?.getD []) ++ line]) rest
    else plainLines (done ++ [line]) rest

/-- The lines of a value as they are written. -/
def writtenLines (value : List Char) : List (List Char) :=
  match linesFrom [] value with
  | [] => [[]]
  | first :: rest =>
    if value.all fun c => c.toNat < 128 then
      if rest.isEmpty then [first]
      else plainLines [withoutLastSpace first] (rest.map withoutLastSpace)
    else
      (if first.isEmpty then [] else encodedWord first)
        :: rest.map fun line => ' ' :: encodedWord (' ' :: line.dropWhile Text.isBlank)

/-- A line looks like the start of another header: it starts with a name and a colon. -/
def embedsHeader : List Char → Bool
  | [] => false
  | c :: rest =>
    (c == '\n' && ((rest.takeWhile fun d => !isBlankChar d).drop 1).contains ':')
      || embedsHeader rest

/-- A line after the first one does not start with white space, so that the header ends before it. -/
def endsEarly : List Char → Bool
  | [] => false
  | c :: rest =>
    (c == '\n' && (rest.head?.any fun d => !isBlankChar d)) || endsEarly rest

/-- Why a value cannot be written as a header. -/
inductive HeaderFault where
  /-- Another header seems to stand in the value. -/
  | embedded (value : String)
  /-- The header ends before its value does. -/
  | broken (header : String)
deriving DecidableEq, Repr

/-- The text of a header. -/
def render (name value : String) : Except HeaderFault String :=
  let written := "\n".intercalate ((writtenLines value.toList).map String.ofList)
  let header := name ++ ": " ++ written ++ "\n"
  if embedsHeader written.toList then .error (.embedded written)
  else if endsEarly written.toList then .error (.broken header)
  else .ok header

end Orchestra.Notification.MailHeader
