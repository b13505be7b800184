import Orchestra.Compression.Container
import Orchestra.Failure
import Orchestra.Http.Message

/-!
Content codings: bodies that were compressed on their way.

The headers of a response name the codings in the order in which they were applied; they are undone
from the last one to the first, piece by piece. A coding that is not known is left alone.
-/

namespace Orchestra.Http

inductive Coding where
  | gzip
  | deflate
  | identity
deriving DecidableEq, Repr

namespace Coding

def ofName? (name : String) : Option Coding :=
  [("gzip", Coding.gzip), ("deflate", .deflate), ("identity", .identity)].lookup name

/-- The codings of a response, the last one that was applied first. -/
def ofResponse (response : Response) : List Coding :=
  (response.headerParts "content-encoding").reverse.filterMap fun name =>
    ofName? (Text.lower (String.ofList (Text.trimChars name.toList)))

end Coding

/-- A decoder in the course of a body. -/
structure Decoder where
  coding : Coding
  container : Compression.Container
  /-- Nothing was given to the decoder yet. -/
  fresh : Bool := true
  seen : List UInt8 := []
  /-- How many bytes it has given out. -/
  given : Nat := 0

namespace Decoder

def ofCoding (coding : Coding) : Decoder :=
  { coding, container := if coding = .deflate then .zlib else .gzip }

/-- The bytes that a container holds beyond those that were given out. -/
def expand (decoder : Decoder) (container : Compression.Container) (bytes : List UInt8) :
    Except Compression.Fault (List UInt8 × Decoder) :=
  let seen := decoder.seen ++ bytes
  (container.expand seen).map fun out =>
    (out.drop decoder.given, { decoder with container, fresh := false, seen, given := out.length })

/-- Takes a piece and gives out what can be read by then. Compressed bytes that do not start with a
header are taken to have none. -/
def feed (decoder : Decoder) (bytes : List UInt8) :
    Except Compression.Fault (List UInt8 × Decoder) :=
  match decoder.coding with
  | .identity => .ok (bytes, decoder)
  | .gzip => decoder.expand .gzip bytes
  | .deflate =>
    match decoder.expand decoder.container bytes with
    | .ok result => .ok result
    | .error fault => if decoder.fresh then decoder.expand .bare bytes else .error fault

/-- Sends a piece through decoders, one after the other. -/
def feedAll : List Decoder → List UInt8 → Except Compression.Fault (List UInt8 × List Decoder)
  | [], bytes => .ok (bytes, [])
  | decoder :: rest, bytes => do
    let (bytes, decoder) ← decoder.feed bytes
    let (bytes, rest) ← feedAll rest bytes
    return (bytes, decoder :: rest)

/-- The decoded pieces up to the first that cannot be decoded; empty ones are left out. -/
def pieces (decoders : List Decoder) : List (List UInt8) → List (Except Failure (List UInt8))
  | [] => []
  | [] :: rest => pieces decoders rest
  | chunk :: rest =>
    match feedAll decoders chunk with
    | .error fault => [.error (.foreign (.network .decoding) fault.message)]
    | .ok ([], decoders) => pieces decoders rest
    | .ok (bytes, decoders) => .ok bytes :: pieces decoders rest

end Decoder

namespace Response

/-- The body in decoded pieces. -/
def pieces (response : Response) : List (Except Failure (List UInt8)) :=
  Decoder.pieces
    (if response.plain then [] else (Coding.ofResponse response).map Decoder.ofCoding)
    response.chunks

/-- The whole body, decoded. -/
def body (response : Response) : Except Failure (List UInt8) :=
  response.pieces.foldlM (fun bytes piece => piece.map (bytes ++ ·)) []

/-- A response whose body is decoded as soon as it is there. -/
def read (response : Response) : Except Failure Response :=
  response.body.map fun bytes => { response with chunks := [bytes], plain := true }

end Response

end Orchestra.Http
