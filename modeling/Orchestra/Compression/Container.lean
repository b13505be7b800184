import Orchestra.Compression.Inflate

/-!
Containers of compressed data: a header in front of the blocks and checksums behind them.
-/

namespace Orchestra.Compression

/-- What stands around the blocks. -/
inductive Container where
  /-- A header with a file name and the like; behind the blocks a checksum and the length. -/
  | gzip
  /-- Two bytes of header; behind the blocks a checksum. -/
  | zlib
  /-- Nothing at all. -/
  | bare
deriving DecidableEq, Repr

/-- Two running sums of bytes, the second of the first. -/
def adler32 (bytes : List UInt8) : Nat :=
  let (low, high) := bytes.foldl (fun (low, high) byte =>
    let low := (low + byte.toNat) % 65521
    (low, (high + low) % 65521)) (1, 0)
  high * 65536 + low

/-- One bit of the division that a cyclic checksum is the remainder of. -/
def crcStep (rest : UInt32) : UInt32 :=
  if rest &&& 1 == 1 then (rest >>> 1) ^^^ 0xedb88320 else rest >>> 1

def crcByte (rest : UInt32) (byte : UInt8) : UInt32 :=
  (List.range 8).foldl (fun rest _ => crcStep rest) (rest ^^^ byte.toUInt32)

/-- The cyclic checksum of bytes. -/
def crc32 (bytes : List UInt8) : Nat :=
  ((bytes.foldl crcByte 0xffffffff) ^^^ 0xffffffff).toNat

/-- The four bytes of a number, the lowest first, in reverse order as one number. -/
def swapped (n : Nat) : Nat :=
  n % 256 * 16777216 + n / 256 % 256 * 65536 + n / 65536 % 256 * 256 + n / 16777216 % 256

/-- Skips a text that ends in a zero byte; `fuel` bounds its length. -/
def skipText : (fuel : Nat) → List Bool → Reading Unit
  | 0, _ => .ended
  | fuel + 1, bits =>
    (readNumber 8 bits).andThen fun byte bits =>
      if byte == 0 then .went () bits else skipText fuel bits

/-- Skips a part of a header where a flag asks for it. -/
def skipIf (flag : Bool) (skip : List Bool → Reading Unit) (bits : List Bool) : Reading Unit :=
  if flag then skip bits else .went () bits

/-- Skips a number of bytes that stands in front of them. -/
def skipSized (bits : List Bool) : Reading Unit :=
  (readNumber 16 bits).andThen fun size bits =>
    if bits.length < 8 * size then .ended else .went () (bits.drop (8 * size))

/-- The bytes in front of what is left of some data. -/
def readBytes (bytes : List UInt8) (rest : List Bool) : List UInt8 :=
  bytes.take (bytes.length - rest.length / 8)

/-- Reads the header of a file. -/
def readFileHeader (bytes : List UInt8) (bits : List Bool) : Reading Unit :=
  (readNumber 16 bits).andThen fun mark bits =>
    if mark != 0x8b1f then .broken .badHeader
    else
      (readNumber 16 bits).andThen fun head bits =>
        let flag (place : Nat) : Bool := head.testBit place
        if head % 256 != 8 then .broken .unknownMethod
        else if flag 13 || flag 14 || flag 15 then .broken .unknownFlags
        else
          (readNumber 48 bits).andThen fun _ bits =>
          (skipIf (flag 10) skipSized bits).andThen fun _ bits =>
          (skipIf (flag 11) (skipText bits.length) bits).andThen fun _ bits =>
          (skipIf (flag 12) (skipText bits.length) bits).andThen fun _ bits =>
            let check := crc32 (readBytes bytes bits) % 65536
            if flag 9 then
              (readNumber 16 bits).andThen fun stated bits =>
                if stated == check then .went () bits else .broken .badHeaderCheck
            else .went () bits

/-- Reads a header of two bytes. -/
def readShortHeader (bits : List Bool) : Reading Unit :=
  (readNumber 16 bits).andThen fun head bits =>
    if (head % 256 * 256 + head / 256) % 31 != 0 then .broken .badHeader
    else if head % 16 != 8 then .broken .unknownMethod
    else if 7 < head / 16 % 16 then .broken .badWindow
    else if head.testBit 13 then (readNumber 32 bits).andThen fun _ _ => .broken .needsDictionary
    else .went () bits

namespace Container

def readHeader (container : Container) (bytes : List UInt8) (bits : List Bool) : Reading Unit :=
  match container with
  | .gzip => readFileHeader bytes bits
  | .zlib => readShortHeader bits
  | .bare => .went () bits

/-- Compares the checksums behind the blocks with the data. -/
def readTrailer (container : Container) (out : List UInt8) (bits : List Bool) : Reading Unit :=
  match container with
  | .gzip =>
    (readNumber 32 bits).andThen fun check bits =>
      if check != crc32 out then .broken .badDataCheck
      else
        (readNumber 32 bits).andThen fun length bits =>
          if length == out.length % 4294967296 then .went () bits else .broken .badLengthCheck
  | .zlib =>
    (readNumber 32 bits).andThen fun check bits =>
      if swapped check == adler32 out then .went () bits else .broken .badDataCheck
  | .bare => .went () bits

/-- The data in a container, as far as the bytes go; bytes behind it do not count. -/
def expand (container : Container) (bytes : List UInt8) : Except Fault (List UInt8) :=
  match container.readHeader bytes (bytes.flatMap bitsOf) with
  | .ended => .ok []
  | .broken fault => .error fault
  | .went () bits =>
    let (out, reading) := inflate bits
    let out := out.toList
    match reading with
    | .ended => .ok out
    | .broken fault => .error fault
    | .went () bits =>
      match container.readTrailer out bits with
      | .broken fault => .error fault
      | _ => .ok out

end Container

end Orchestra.Compression
