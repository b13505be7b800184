import Orchestra.Logging.Placeholder

/-!
Messages with placeholders that arguments are put into, from left to right or by name. Two percent
signs stand for one.
-/

namespace Orchestra.Logging

/-- What placeholders are filled from. -/
inductive Supply where
  /-- From a row of values, one after the other. -/
  | row (values : List Value)
  /-- From named values; `next` is the one for a placeholder without a name. -/
  | named (fields : Fields) (next : Option Value)

namespace Supply

/-- The arguments of a message. One object that is not empty supplies its entries by name. -/
def ofArguments : List Value → Supply
  | [.obj (entry :: rest)] => .named (entry :: rest) (some (.obj (entry :: rest)))
  | values => .row values

def take : Supply → Except Failure (Value × Supply)
  | .row (value :: rest) => .ok (value, .row rest)
  | .named fields (some value) => .ok (value, .named fields none)
  | _ => .error (typeFailure "not enough arguments for format string")

/-- Makes the value of a name the next one. -/
def seek (supply : Supply) (name : String) : Except Failure Supply :=
  match supply with
  | .row _ => .error (typeFailure "format requires a mapping")
  | .named fields _ =>
    match fields.get? name with
    | some value => .ok (.named fields (some value))
    | none => .error (.missingKey name)

/-- Values that were given in a row have to be used up. -/
def finish : Supply → Except Failure Unit
  | .row (_ :: _) => .error (typeFailure "not all arguments converted during string formatting")
  | _ => .ok ()

end Supply

/-- The text of a bracket that is open `depth + 1` times, and what follows it. -/
def readName (depth : Nat) : List Char → Option (List Char × List Char)
  | [] => none
  | c :: rest =>
    let more (depth : Nat) := (readName depth rest).map fun (name, rest) => (c :: name, rest)
    match c, depth with
    | ')', 0 => some ([], rest)
    | ')', depth + 1 => more depth
    | '(', depth => more (depth + 1)
    | _, depth => more depth

/-- The flags at the start of a placeholder, and what follows them. -/
def readFlags (placement : Placement) : List Char → Placement × List Char
  | '-' :: rest => readFlags { placement with left := true } rest
  | '0' :: rest => readFlags { placement with zeros := true } rest
  | '+' :: rest => readFlags { placement with plus := true } rest
  | ' ' :: rest => readFlags { placement with blank := true } rest
  | '#' :: rest => readFlags { placement with full := true } rest
  | rest => (placement, rest)

/-- What a placeholder counts. -/
inductive Count where
  | width
  | precision

namespace Count

/-- The number of bits of a count, its sign aside. -/
def bits : Count → Nat
  | .width => 63
  | .precision => 31

def tooBig : Count → Failure
  | .width => .value "width too big"
  | .precision => .value "precision too big"

/-- A value is too large for a count. -/
def overflow : Count → Failure
  | .width => .foreign .overflow "Python int too large to convert to C ssize_t"
  | .precision => .foreign .overflow "Python int too large to convert to C int"

def fits (count : Count) (n : Int) : Bool :=
  n.natAbs < Nat.pow 2 count.bits

/-- A count at the start of a text, and what follows it; a star takes it from the supply. -/
def read (count : Count) (supply : Supply) :
    List Char → Except Failure (Int × Supply × List Char)
  | '*' :: rest => do
    let (value, supply) ← supply.take
    match value with
    | .int n => if count.fits n then return (n, supply, rest) else .error count.overflow
    | .bool b => return (if b then 1 else 0, supply, rest)
    | _ => .error (typeFailure "* wants int")
  | cs =>
    let n : Nat := (cs.takeWhile Char.isDigit).foldl (fun n c => 10 * n + (c.toNat - 48)) 0
    if count.fits n then .ok (n, supply, cs.dropWhile Char.isDigit) else .error count.tooBig

end Count

/-- The placement in a placeholder, and what follows it. -/
def readPlacement (supply : Supply) (cs : List Char) :
    Except Failure (Placement × Supply × List Char) := do
  let (supply, cs) ←
    match cs with
    | '(' :: rest =>
      match readName 0 rest with
      | none =>
        -- A supply without names is refused before the name is read.
        match supply with
        | .row _ => .error (typeFailure "format requires a mapping")
        | .named .. => .error (.value "incomplete format key")
      | some (name, rest) => (supply.seek (String.ofList name)).map fun supply => (supply, rest)
    | rest => .ok (supply, rest)
  let (placement, cs) := readFlags {} cs
  let (width, supply, cs) ← Count.width.read supply cs
  let placement := { placement with
    left := placement.left || width < 0
    width := width.natAbs }
  let (placement, supply, cs) ←
    match cs with
    | '.' :: rest =>
      (Count.precision.read supply rest).map fun (precision, supply, cs) =>
        ({ placement with precision := some precision.toNat }, supply, cs)
    | rest => .ok (placement, supply, rest)
  match cs with
  | 'h' :: rest | 'l' :: rest | 'L' :: rest => return (placement, supply, rest)
  | rest => return (placement, supply, rest)

/-- Fills a text of `total` characters; `fuel` bounds what is left to look at. -/
def fillFrom (total : Nat) : Nat → List Char → Supply → Except Failure (List Char)
  | 0, _, supply | _, [], supply => supply.finish.map fun _ => []
  | fuel + 1, '%' :: '%' :: rest, supply => do return '%' :: (← fillFrom total fuel rest supply)
  | fuel + 1, '%' :: cs, supply => do
    let (placement, supply, cs) ← readPlacement supply cs
    match cs with
    | [] => .error (.value "incomplete format")
    | letter :: rest =>
      let (value, supply) ← supply.take
      let text ← placement.put letter (total - rest.length - 1) value
      return text ++ (← fillFrom total fuel rest supply)
  | fuel + 1, c :: rest, supply => do return c :: (← fillFrom total fuel rest supply)

/-- A message with its arguments put in; without arguments it is taken as it stands. -/
def fill (message : String) (arguments : List Value) : Except Failure String :=
  if arguments.isEmpty then .ok message
  else
    let cs := message.toList
    (fillFrom cs.length cs.length cs (Supply.ofArguments arguments)).map String.ofList

end Orchestra.Logging
