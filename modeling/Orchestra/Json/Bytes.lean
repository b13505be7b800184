import Orchestra.Json.Reader
import Orchestra.Text.Charset.Unicode

/-!
Reading of JSON from bytes.

A mark at the start, or else the zeros among the first bytes, tell how the text is encoded; without
either it is UTF-8. Bytes that are no text are refused with the place where they go wrong.
-/

namespace Orchestra.Json

/-- How text is encoded. -/
inductive Encoding where
  | utf8
  /-- Units of two or four bytes, the high byte first or last. -/
  | wide (four big : Bool)
deriving DecidableEq, Repr

/-- The encoding that the first bytes show, and how many of them are a mark of it. -/
def encodingOf : List UInt8 → Encoding × Nat
  | 0 :: 0 :: 0xfe :: 0xff :: _ => (.wide true true, 4)
  | 0xff :: 0xfe :: 0 :: 0 :: _ => (.wide true false, 4)
  | 0xfe :: 0xff :: _ => (.wide false true, 2)
  | 0xff :: 0xfe :: _ => (.wide false false, 2)
  | 0xef :: 0xbb :: 0xbf :: _ => (.utf8, 3)
  | 0 :: b :: _ :: _ :: _ => (.wide (b == 0) true, 0)
  | _ :: 0 :: c :: d :: _ => (.wide (c == 0 && d == 0) false, 0)
  | [0, _] => (.wide false true, 0)
  | [_, 0] => (.wide false false, 0)
  | _ => (.utf8, 0)

/-- The name of an encoding. -/
def Encoding.name : Encoding → String
  | .utf8 => "utf-8"
  | .wide four big =>
    (if four then "utf-32" else "utf-16") ++ (if big then "-be" else "-le")

/-- Bytes that are no text: the first of them, their place and number, and the reason. -/
structure Flaw where
  byte : UInt8
  start : Nat
  count : Nat
  reason : String
deriving DecidableEq, Repr

/-- A sequence that has begun: its first byte, its place, the bytes so far, and the rest of it. -/
structure Sequence where
  byte : UInt8
  start : Nat
  count : Nat
  pending : Text.Utf8Pending

/-- Three bytes for half of a pair of units, which is let through. -/
def isHalf (second third : UInt8) : Bool :=
  0xa0 ≤ second && second ≤ 0xbf && 0x80 ≤ third && third ≤ 0xbf

/-- Bytes with the replacement character in place of every half of a pair. -/
def withoutHalves : List UInt8 → List UInt8
  | 0xed :: second :: third :: rest =>
    if isHalf second third then 0xef :: 0xbf :: 0xbd :: withoutHalves rest
    else 0xed :: withoutHalves (second :: third :: rest)
  | byte :: rest => byte :: withoutHalves rest
  | [] => []

/-- The first flaw of UTF-8 from a place on. -/
def flawFrom (position : Nat) (begun : Option Sequence) : List UInt8 → Option Flaw
  | [] => begun.map fun found => ⟨found.byte, found.start, found.count, "unexpected end of data"⟩
  | byte :: rest =>
    match begun with
    | none =>
      match Text.utf8Start byte.toNat with
      | (_, some pending) =>
        flawFrom (position + 1) (some ⟨byte, position, 1, pending⟩) rest
      | (_, none) =>
        if byte.toNat < 0x80 then flawFrom (position + 1) none rest
        else some ⟨byte, position, 1, "invalid start byte"⟩
    | some found =>
      if found.pending.low ≤ byte.toNat && byte.toNat ≤ found.pending.high then
        match Text.utf8Continue found.pending byte.toNat with
        | (_, some pending) =>
          flawFrom (position + 1) (some { found with count := found.count + 1, pending }) rest
        | (_, none) => flawFrom (position + 1) none rest
      else some ⟨found.byte, found.start, found.count, "invalid continuation byte"⟩

/-- The first flaw of units of four bytes, and of bytes that make no unit. -/
def wideFlaw (four big : Bool) (position : Nat) : List UInt8 → Option Flaw
  | a :: b :: c :: d :: rest =>
    if four && 0x110000 ≤ Text.unit32 big a b c d then
      some ⟨a, position, 4, "code point not in range(0x110000)"⟩
    else wideFlaw four big (position + 4) rest
  | [] => none
  | a :: rest =>
    if four then some ⟨a, position, rest.length + 1, "truncated data"⟩
    else
      match rest with
      | [] => some ⟨a, position, 1, "truncated data"⟩
      | [_, c] => some ⟨c, position + 2, 1, "truncated data"⟩
      | _ => none

def Flaw.message (flaw : Flaw) (encoding : Encoding) : String :=
  let number (n : Nat) := String.ofList (Text.naturalText n)
  let place :=
    if flaw.count = 1 then
      "byte 0x" ++ String.ofList (Text.padded 16 2 flaw.byte.toNat) ++ " in position "
        ++ number flaw.start
    else "bytes in position " ++ number flaw.start ++ "-" ++ number (flaw.start + flaw.count - 1)
  "'" ++ encoding.name ++ "' codec can't decode " ++ place ++ ": " ++ flaw.reason

/-- The text that bytes hold, or why they hold none. Places count from behind the mark of UTF-8, and
from the mark of the other encodings on. -/
def textOf (bytes : List UInt8) : Except String String :=
  let (encoding, mark) := encodingOf bytes
  let body := bytes.drop mark
  match encoding with
  | .utf8 =>
    let body := withoutHalves body
    match flawFrom 0 none body with
    | some flaw => .error (flaw.message encoding)
    | none => .ok (String.ofList (Text.utf8 body))
  | .wide four big =>
    match wideFlaw four big mark body with
    | some flaw => .error (flaw.message encoding)
    | none =>
      .ok (String.ofList (if four then Text.utf32 big body else Text.utf16 big body).replaced)

/-- The value that bytes hold, or why they hold none. -/
def ofBytes (bytes : List UInt8) : Except Refusal Value :=
  match textOf bytes with
  | .error message => .error { message }
  | .ok text => parse text

end Orchestra.Json
