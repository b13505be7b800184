import Orchestra.Compression.PrefixCode

/-!
Compressed data in blocks.

A block holds bytes as they are, or codes for bytes and for repetitions of what came before. The codes
are fixed or stand at the start of the block. Data that ends early gives what can be read of it.
-/

namespace Orchestra.Compression

/-- What is wrong with compressed data. -/
inductive Fault where
  | badHeader
  | unknownMethod
  | badWindow
  | unknownFlags
  | badHeaderCheck
  | needsDictionary
  | badBlockType
  | badStoredLength
  | tooManySymbols
  | badCodeLengths
  | badRepeat
  | noEndOfBlock
  | badLiteralCode
  | badDistanceCode
  | unknownLiteral
  | unknownDistance
  | tooFarBack
  | badDataCheck
  | badLengthCheck
deriving DecidableEq, Repr

/-- The wording of a fault. -/
def Fault.message : Fault → String
  | .needsDictionary => "Error 2 while decompressing data"
  | fault =>
    "Error -3 while decompressing data: " ++
      match fault with
      | .badHeader => "incorrect header check"
      | .unknownMethod => "unknown compression method"
      | .badWindow => "invalid window size"
      | .unknownFlags => "unknown header flags set"
      | .badHeaderCheck => "header crc mismatch"
      | .needsDictionary => ""
      | .badBlockType => "invalid block type"
      | .badStoredLength => "invalid stored block lengths"
      | .tooManySymbols => "too many length or distance symbols"
      | .badCodeLengths => "invalid code lengths set"
      | .badRepeat => "invalid bit length repeat"
      | .noEndOfBlock => "invalid code -- missing end-of-block"
      | .badLiteralCode => "invalid literal/lengths set"
      | .badDistanceCode => "invalid distances set"
      | .unknownLiteral => "invalid literal/length code"
      | .unknownDistance => "invalid distance code"
      | .tooFarBack => "invalid distance too far back"
      | .badDataCheck => "incorrect data check"
      | .badLengthCheck => "incorrect length check"

/-- Where reading stands: after a part of the data, at an early end of it, or at a fault. -/
inductive Reading (α : Type) where
  | went (value : α) (rest : List Bool)
  | ended
  | broken (fault : Fault)

namespace Reading

variable {α β : Type}

/-- Goes on after a part that was read. -/
def andThen (reading : Reading α) (next : α → List Bool → Reading β) : Reading β :=
  match reading with
  | .went value rest => next value rest
  | .ended => .ended
  | .broken fault => .broken fault

end Reading

/-- The bits of a byte, the lowest first. -/
def bitsOf (byte : UInt8) : List Bool :=
  (List.range 8).map fun place => byte.toNat.testBit place

/-- The number that bits spell, the lowest first. -/
def numberOf (bits : List Bool) : Nat :=
  bits.foldr (fun bit number => 2 * number + bit.toNat) 0

/-- A number of some bits. -/
def readNumber (width : Nat) (bits : List Bool) : Reading Nat :=
  let front := bits.take width
  if front.length < width then .ended else .went (numberOf front) (bits.drop width)

/-- A symbol of a code; `unknown` is the fault of bits that are no code. -/
def readSymbol (code : PrefixCode) (unknown : Fault) (bits : List Bool) : Reading Nat :=
  match code.decode bits with
  | .symbol value rest => .went value rest
  | .starved => .ended
  | .unknown => .broken unknown

/-- The codes of a block: one for bytes and lengths, one for distances. -/
structure Codes where
  literals : PrefixCode
  distances : PrefixCode

/-- The codes of blocks that bring none. -/
def fixedCodes : Codes where
  literals := .ofLengths (List.replicate 144 8 ++ List.replicate 112 9 ++ List.replicate 24 7
    ++ List.replicate 8 8)
  distances := .ofLengths (List.replicate 32 5)

/-- The order in which the lengths of the code for lengths stand. -/
def lengthOrder : List Nat :=
  [16, 17, 18, 0, 8, 7, 9, 6, 10, 5, 11, 4, 12, 3, 13, 2, 14, 1, 15]

/-- Numbers of three bits. -/
def readTriples : Nat → List Bool → Reading (List Nat)
  | 0, bits => .went [] bits
  | count + 1, bits =>
    (readNumber 3 bits).andThen fun first bits =>
      (readTriples count bits).andThen fun others bits => .went (first :: others) bits

/-- Lengths of codes, in reverse after those that are `done`, up to `total` of them. A symbol is a
length, or a repetition of the last one or of zero. -/
def readLengths (code : PrefixCode) (total : Nat) : (fuel : Nat) → List Nat → List Bool →
    Reading (List Nat)
  | 0, done, bits => .went done bits
  | fuel + 1, done, bits =>
    if total ≤ done.length then .went done bits
    else
      let symbol : Reading Nat :=
        if code.counts.isEmpty then (readNumber 1 bits).andThen fun _ bits => .went 0 bits
        else readSymbol code .badCodeLengths bits
      symbol.andThen fun symbol bits =>
        if symbol < 16 then readLengths code total fuel (symbol :: done) bits
        else
          let (width, least) :=
            if symbol == 16 then (2, 3) else if symbol == 17 then (3, 3) else (7, 11)
          (readNumber width bits).andThen fun more bits =>
            match if symbol == 16 then done.head? else some 0 with
            | none => .broken .badRepeat
            | some length =>
              if total < done.length + least + more then .broken .badRepeat
              else
                readLengths code total fuel (List.replicate (least + more) length ++ done) bits

/-- The codes at the start of a block. -/
def readCodes (bits : List Bool) : Reading Codes :=
  (readNumber 5 bits).andThen fun literals bits =>
  (readNumber 5 bits).andThen fun distances bits =>
  (readNumber 4 bits).andThen fun lengths bits =>
    let literals := literals + 257
    let distances := distances + 1
    if 286 < literals || 30 < distances then .broken .tooManySymbols
    else
      (readTriples (lengths + 4) bits).andThen fun triples bits =>
        let code := PrefixCode.ofLengths ((List.range 19).map fun symbol =>
          ((lengthOrder.zip triples).lookup symbol).getD 0)
        if !code.counts.isEmpty && !code.isComplete then .broken .badCodeLengths
        else
          let total := literals + distances
          (readLengths code total total [] bits).andThen fun found bits =>
            let found := found.reverse
            let literalCode := PrefixCode.ofLengths (found.take literals)
            let distanceCode := PrefixCode.ofLengths (found.drop literals)
            if found[256]?.getD 0 == 0 then .broken .noEndOfBlock
            else if !literalCode.isUsable then .broken .badLiteralCode
            else if !distanceCode.isUsable then .broken .badDistanceCode
            else .went ⟨literalCode, distanceCode⟩ bits

/-- The least lengths of repetitions, and how many bits follow each. -/
def lengthBases : List (Nat × Nat) :=
  [(3, 0), (4, 0), (5, 0), (6, 0), (7, 0), (8, 0), (9, 0), (10, 0), (11, 1), (13, 1), (15, 1),
    (17, 1), (19, 2), (23, 2), (27, 2), (31, 2), (35, 3), (43, 3), (51, 3), (59, 3), (67, 4),
    (83, 4), (99, 4), (115, 4), (131, 5), (163, 5), (195, 5), (227, 5), (258, 0)]

/-- The least distances of repetitions, and how many bits follow each. -/
def distanceBases : List (Nat × Nat) :=
  [(1, 0), (2, 0), (3, 0), (4, 0), (5, 1), (7, 1), (9, 2), (13, 2), (17, 3), (25, 3), (33, 4),
    (49, 4), (65, 5), (97, 5), (129, 6), (193, 6), (257, 7), (385, 7), (513, 8), (769, 8),
    (1025, 9), (1537, 9), (2049, 10), (3073, 10), (4097, 11), (6145, 11), (8193, 12),
    (12289, 12), (16385, 13), (24577, 13)]

/-- A number from its base and the bits that follow. -/
def readBased (bases : List (Nat × Nat)) (unknown : Fault) (symbol : Nat) (bits : List Bool) :
    Reading Nat :=
  match bases[symbol]? with
  | none => .broken unknown
  | some (base, width) =>
    (readNumber width bits).andThen fun more bits => .went (base + more) bits

/-- Repeats what was written `distance` bytes ago. -/
def repeatBytes (distance : Nat) : Nat → Array UInt8 → Array UInt8
  | 0, out => out
  | count + 1, out =>
    repeatBytes distance count (out.push ((out[out.size - distance]?).getD 0))

/-- Where the writing of data stands: what was written, and how it goes on. -/
abbrev Writing := Array UInt8 × Reading Unit

/-- Writes a block of codes; `fuel` bounds the number of symbols. -/
def writeCoded (codes : Codes) : (fuel : Nat) → Array UInt8 → List Bool → Writing
  | 0, out, _ => (out, .ended)
  | fuel + 1, out, bits =>
    match readSymbol codes.literals .unknownLiteral bits with
    | .ended => (out, .ended)
    | .broken fault => (out, .broken fault)
    | .went symbol bits =>
      if symbol < 256 then writeCoded codes fuel (out.push (UInt8.ofNat symbol)) bits
      else if symbol == 256 then (out, .went () bits)
      else
        let span : Reading (Nat × Nat) :=
          (readBased lengthBases .unknownLiteral (symbol - 257) bits).andThen fun length bits =>
          (readSymbol codes.distances .unknownDistance bits).andThen fun place bits =>
          (readBased distanceBases .unknownDistance place bits).andThen fun distance bits =>
            if out.size < distance then .broken .tooFarBack else .went (length, distance) bits
        match span with
        | .ended => (out, .ended)
        | .broken fault => (out, .broken fault)
        | .went (length, distance) bits =>
          writeCoded codes fuel (repeatBytes distance length out) bits

/-- Writes bytes as they are, as many as there are. -/
def writeBytes : Nat → Array UInt8 → List Bool → Writing
  | 0, out, bits => (out, .went () bits)
  | count + 1, out, bits =>
    match readNumber 8 bits with
    | .went byte bits => writeBytes count (out.push (UInt8.ofNat byte)) bits
    | .ended => (out, .ended)
    | .broken fault => (out, .broken fault)

/-- Writes a block of bytes as they are, whose number stands twice in front of them. -/
def writeStored (out : Array UInt8) (bits : List Bool) : Writing :=
  let bits := bits.drop (bits.length % 8)
  let size := (readNumber 16 bits).andThen fun size bits =>
    (readNumber 16 bits).andThen fun opposite bits =>
      if size + opposite == 65535 then .went size bits else .broken .badStoredLength
  match size with
  | .went size bits => writeBytes size out bits
  | .ended => (out, .ended)
  | .broken fault => (out, .broken fault)

/-- Writes blocks up to the last one; `fuel` bounds their number. -/
def writeBlocks : (fuel : Nat) → Array UInt8 → List Bool → Writing
  | 0, out, _ => (out, .ended)
  | fuel + 1, out, bits =>
    let head := (readNumber 1 bits).andThen fun last bits =>
      (readNumber 2 bits).andThen fun kind bits => .went (last == 1, kind) bits
    match head with
    | .ended => (out, .ended)
    | .broken fault => (out, .broken fault)
    | .went (last, kind) bits =>
      let (out, reading) : Writing :=
        if kind == 0 then writeStored out bits
        else if kind == 1 then writeCoded fixedCodes bits.length out bits
        else if kind == 2 then
          match readCodes bits with
          | .went codes bits => writeCoded codes bits.length out bits
          | .ended => (out, .ended)
          | .broken fault => (out, .broken fault)
        else (out, .broken .badBlockType)
      match reading with
      | .went () bits =>
        if last then (out, .went () (bits.drop (bits.length % 8))) else writeBlocks fuel out bits
      | reading => (out, reading)

/-- Writes the data that blocks stand for, as far as they go. -/
def inflate (bits : List Bool) : Writing :=
  writeBlocks (bits.length + 1) #[] bits

end Orchestra.Compression
