import Orchestra.Text.Blank

/-!
Environment files: one `NAME=value` per line, with comments, quotes and references.

A line may start with `export`. A value in quotes may span lines and hold escapes; a bare value ends
at the line or at a blank followed by `#`. A name without a value takes back what was defined before.
`${NAME}` and `${NAME:-default}` refer to names defined above or in the environment. A line that
cannot be read is skipped. All ends of lines count as one line feed, and a byte order mark at the start
of the file is no part of it.
-/

namespace Orchestra.Dotenv

/-- White space that does not end a line. -/
def isGap (c : Char) : Bool :=
  Text.isBlank c && c != '\n' && c != '\r'

def isLineEnd (c : Char) : Bool :=
  c == '\n' || c == '\r'

/-- What follows the line that a text starts with. -/
def nextLine (cs : List Char) : List Char :=
  match cs.dropWhile (!isLineEnd ·) with
  | '\r' :: '\n' :: rest => rest
  | _ :: rest => rest
  | [] => []

/-- The text of a file with all ends of lines as one line feed. -/
def plainLines : List Char → List Char
  | '\r' :: '\n' :: rest => '\n' :: plainLines rest
  | '\r' :: rest => '\n' :: plainLines rest
  | c :: rest => c :: plainLines rest
  | [] => []

/-- The text of a file without a byte order mark at its start. -/
def withoutMark : List Char → List Char
  | '\uFEFF' :: rest => rest
  | cs => cs

/-- The characters of a quoted value up to its closing quote, and what follows the quote. A backslash
keeps the quote or the backslash after it inside the value; where no quote is left to close the value,
the last one that was kept does. -/
def untilQuote (quote : Char) : List Char → Option (List Char × List Char)
  | [] => none
  | '\\' :: '\\' :: rest =>
    (untilQuote quote rest).map fun (body, tail) => ('\\' :: '\\' :: body, tail)
  | '\\' :: c :: rest =>
    if c == quote then
      match untilQuote quote rest with
      | some (body, tail) => some ('\\' :: c :: body, tail)
      | none => some (['\\'], rest)
    else
      (untilQuote quote (c :: rest)).map fun (body, tail) => ('\\' :: body, tail)
  | c :: rest =>
    if c == quote then some ([], rest)
    else (untilQuote quote rest).map fun (body, tail) => (c :: body, tail)

/-- The character that an escape in double quotes stands for. -/
def doubleEscape? : Char → Option Char
  | '\\' => some '\\'
  | '\'' => some '\''
  | '"' => some '"'
  | 'a' => some '\x07'
  | 'b' => some '\x08'
  | 'f' => some '\x0c'
  | 'n' => some '\n'
  | 'r' => some '\r'
  | 't' => some '\t'
  | 'v' => some '\x0b'
  | _ => none

/-- The character that an escape in single quotes stands for. -/
def singleEscape? : Char → Option Char
  | '\\' => some '\\'
  | '\'' => some '\''
  | _ => none

/-- A text with its escapes replaced. -/
def unescape (escape? : Char → Option Char) : List Char → List Char
  | '\\' :: c :: rest =>
    match escape? c with
    | some meant => meant :: unescape escape? rest
    | none => '\\' :: unescape escape? (c :: rest)
  | c :: rest => c :: unescape escape? rest
  | [] => []

/-- A bare value up to a comment: a blank with `#` after it. -/
def untilComment : List Char → List Char
  | [] => []
  | c :: rest =>
    if Text.isBlank c && (rest.dropWhile Text.isBlank).head? == some '#' then []
    else c :: untilComment rest

/-- A value with the gap before it, and what follows it. -/
def readValue? (cs : List Char) : Option (List Char × List Char) :=
  match cs.dropWhile isGap with
  | '\'' :: rest =>
    (untilQuote '\'' rest).map fun (body, tail) => (unescape singleEscape? body, tail)
  | '"' :: rest =>
    (untilQuote '"' rest).map fun (body, tail) => (unescape doubleEscape? body, tail)
  | _ =>
    some (Text.trimChars (untilComment (cs.takeWhile (!isLineEnd ·))), cs.dropWhile (!isLineEnd ·))

/-- The text after the word `export` and a gap, or the text itself. -/
def afterExport (cs : List Char) : List Char :=
  let word := "export".toList
  if word.isPrefixOf cs && ((cs.drop word.length).head?.map isGap).getD false then
    (cs.drop word.length).dropWhile isGap
  else cs

/-- A name, and what follows it. -/
def readName? (cs : List Char) : Option (List Char × List Char) :=
  match cs with
  | '\'' :: rest =>
    match rest.takeWhile (· != '\''), rest.dropWhile (· != '\'') with
    | c :: name, _ :: tail => some (c :: name, tail)
    | _, _ => none
  | _ =>
    let inName (c : Char) := c != '=' && c != '#' && !Text.isBlank c
    match cs.takeWhile inName with
    | [] => none
    | name => some (name, cs.dropWhile inName)

/-- Nothing but blanks and a comment stands before the end of the line. -/
def endsLine (cs : List Char) : Bool :=
  match cs.dropWhile isGap with
  | [] => true
  | '#' :: _ => true
  | c :: _ => isLineEnd c

/-- What a line of an environment file says. -/
inductive Line where
  | definition (name : List Char) (value : Option (List Char))
  | remark
  | unreadable

/-- The line that a text starts with, and what follows it. -/
def readLine (cs : List Char) : Line × List Char :=
  if cs.head? == some '#' then (.remark, nextLine cs)
  else
    match readName? (afterExport cs) with
    | none => (.unreadable, nextLine cs)
    | some (name, rest) =>
      match rest.dropWhile isGap with
      | '=' :: rest =>
        match readValue? rest with
        | none => (.unreadable, nextLine rest)
        | some (value, rest) =>
          (if endsLine rest then .definition name (some value) else .unreadable, nextLine rest)
      | rest => (if endsLine rest then .definition name none else .unreadable, nextLine rest)

/-- The definitions of a text in order; `lines` bounds the number of lines. -/
def readDefinitions (lines : Nat) (cs : List Char) : List (List Char × Option (List Char)) :=
  match lines with
  | 0 => []
  | lines + 1 =>
    match cs.dropWhile Text.isBlank with
    | [] => []
    | body =>
      match readLine body with
      | (.definition name value, rest) => (name, value) :: readDefinitions lines rest
      | (.remark, rest) | (.unreadable, rest) => readDefinitions lines rest

/-- A reference at the start of a text: its name, its default, and what follows it. -/
def reference? : List Char → Option (List Char × List Char × List Char)
  | '$' :: '{' :: rest =>
    let name := rest.takeWhile fun c => c != '}' && c != ':'
    match rest.drop name.length with
    | '}' :: tail => some (name, [], tail)
    | ':' :: '-' :: more =>
      match more.dropWhile (· != '}') with
      | _ :: tail => some (name, more.takeWhile (· != '}'), tail)
      | [] => none
    | _ => none
  | _ => none

/-- A value with its references replaced; `length` bounds what is left to look at. -/
def expand (lookup : String → Option String) (length : Nat) (cs : List Char) : List Char :=
  match length with
  | 0 => cs
  | length + 1 =>
    match reference? cs with
    | some (name, default, tail) =>
      ((lookup (String.ofList name)).map String.toList).getD default ++ expand lookup length tail
    | none =>
      match cs with
      | [] => []
      | c :: rest => c :: expand lookup length rest

/-- Names with their values; some have none. -/
abbrev Definitions := List (String × Option String)

/-- Writes a name over its earlier value, or appends it. -/
def define (name : String) (value : Option String) : Definitions → Definitions
  | [] => [(name, value)]
  | (other, old) :: rest =>
    if other == name then (other, value) :: rest else (other, old) :: define name value rest

/-- What a reference to a name stands for, if the name is known: one without a value is empty. -/
def refer (environment : List (String × String)) (defined : Definitions) (name : String) :
    Option String :=
  match defined.lookup name with
  | some value => some (value.getD "")
  | none => environment.lookup name

/-- The names that an environment file defines, with the environment it is read in. -/
def read (environment : List (String × String)) (text : String) : List (String × String) :=
  let cs := plainLines (withoutMark text.toList)
  let defined := (readDefinitions (cs.length + 1) cs).foldl (fun defined (name, value) =>
    let value := value.map fun value =>
      String.ofList (expand (refer environment defined) value.length value)
    define (String.ofList name) value defined) []
  defined.filterMap fun (name, value) => value.map fun value => (name, value)

end Orchestra.Dotenv
