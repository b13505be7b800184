/-!
Prefix codes: symbols written with few bits, of which no code begins another one.

A code is given by the number of bits of every symbol. Codes of one length are consecutive numbers in
the order of their symbols, and shorter codes come before longer ones.
-/

namespace Orchestra.Compression

/-- A code, by the number of symbols of each length from one bit on, and the symbols in the order of
their codes. -/
structure PrefixCode where
  counts : List Nat
  symbols : Array Nat
deriving Repr

/-- What the bits at the start of a text say. -/
inductive Decoded where
  | symbol (value : Nat) (rest : List Bool)
  /-- The bits end inside a code. -/
  | starved
  /-- No code begins like this. -/
  | unknown

namespace PrefixCode

/-- The greatest number of bits of a symbol. -/
def maxBits : Nat := 15

/-- The code in which symbol `i` has as many bits as the list says at `i`; no bits for a symbol that
does not occur. -/
def ofLengths (lengths : List Nat) : PrefixCode :=
  let longest := lengths.foldl max 0
  let widths := (List.range longest).map (· + 1)
  { counts := widths.map fun width => lengths.count width
    symbols := (widths.flatMap fun width =>
      (lengths.zipIdx.filter fun (length, _) => length == width).map Prod.snd).toArray }

/-- What is left of all codes of `maxBits` bits when codes are taken; none when there are too many
of them. -/
def unused? (counts : List Nat) : Option Nat :=
  (counts ++ List.replicate (maxBits - counts.length) 0).foldlM
    (fun left count => if count ≤ 2 * left then some (2 * left - count) else none) 1

/-- All codes are used, none twice. -/
def isComplete (code : PrefixCode) : Bool :=
  unused? code.counts == some 0

/-- No code is used twice, and only a single code of one bit leaves others over. -/
def isUsable (code : PrefixCode) : Bool :=
  match unused? code.counts with
  | none => false
  | some left => left == 0 || code.counts.length ≤ 1

/-- Walks down the lengths: `read` is the number read so far, `first` the first code of the length,
and `index` its place among the symbols. -/
def walk (symbols : Array Nat) (read first index : Nat) : List Nat → List Bool → Decoded
  | [], _ => .unknown
  | _ :: _, [] => .starved
  | count :: counts, bit :: rest =>
    let read := 2 * read + bit.toNat
    let first := 2 * first
    if read < first + count then
      match symbols[index + (read - first)]? with
      | some symbol => .symbol symbol rest
      | none => .unknown
    else walk symbols read (first + count) (index + count) counts rest

/-- The symbol at the start of some bits; in a code without symbols every bit is unknown. -/
def decode (code : PrefixCode) (bits : List Bool) : Decoded :=
  match code.counts, bits with
  | [], [] => .starved
  | counts, bits => walk code.symbols 0 0 0 counts bits

end PrefixCode

example : (PrefixCode.ofLengths [2, 1, 3, 3]).isComplete = true := by decide

end Orchestra.Compression
