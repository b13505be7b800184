/-!
Internet addresses and the ranges that lead inside a network.

An address is internal when it is private, loopback, link-local, reserved, unspecified or
multicast. An IPv6 address that stands for an IPv4 one is judged as that one.
-/

namespace Orchestra

inductive Address where
  /-- Four octets as one number. -/
  | v4 (bits : Nat)
  /-- Eight groups of sixteen bits as one number. -/
  | v6 (bits : Nat)
deriving DecidableEq, Repr

/-- All numbers of `width` bits that agree with `base` in their first `fixed` bits. -/
structure AddressBlock where
  base : Nat
  fixed : Nat

namespace AddressBlock

def contains (block : AddressBlock) (width bits : Nat) : Bool :=
  bits >>> (width - block.fixed) == block.base >>> (width - block.fixed)

/-- Some block contains the number. -/
def covers (blocks : List AddressBlock) (width bits : Nat) : Bool :=
  blocks.any fun block => block.contains width bits

/-- An IPv4 block, from its octets. -/
def ofOctets (a b c d fixed : Nat) : AddressBlock :=
  ⟨((a * 256 + b) * 256 + c) * 256 + d, fixed⟩

/-- An IPv6 block, from its first groups. -/
def ofGroups (groups : List Nat) (fixed : Nat) : AddressBlock :=
  ⟨groups.foldl (fun bits group => bits * 65536 + group) 0 * Nat.pow 65536 (8 - groups.length), fixed⟩

end AddressBlock

namespace Address

open AddressBlock

/-- Private IPv4 blocks, with the loopback and link-local ones among them. -/
def privateV4 : List AddressBlock :=
  [ofOctets 0 0 0 0 8, ofOctets 10 0 0 0 8, ofOctets 127 0 0 0 8, ofOctets 169 254 0 0 16,
    ofOctets 172 16 0 0 12, ofOctets 192 0 0 0 24, ofOctets 192 0 2 0 24, ofOctets 192 168 0 0 16,
    ofOctets 198 18 0 0 15, ofOctets 198 51 100 0 24, ofOctets 203 0 113 0 24,
    ofOctets 240 0 0 0 4]

/-- Single addresses inside private IPv4 blocks that are public. -/
def publicV4 : List AddressBlock :=
  [ofOctets 192 0 0 9 32, ofOctets 192 0 0 10 32]

def reservedV4 : List AddressBlock :=
  [ofOctets 240 0 0 0 4]

def multicastV4 : List AddressBlock :=
  [ofOctets 224 0 0 0 4]

/-- Private IPv6 blocks, with the loopback, unspecified and link-local ones among them. -/
def privateV6 : List AddressBlock :=
  [ofGroups [0, 0, 0, 0, 0, 0, 0, 1] 128, ofGroups [0] 128, ofGroups [0, 0, 0, 0, 0, 0xffff] 96,
    ofGroups [0x64, 0xff9b, 1] 48, ofGroups [0x100] 64, ofGroups [0x2001] 23,
    ofGroups [0x2001, 0xdb8] 32, ofGroups [0x2002] 16, ofGroups [0xfc00] 7, ofGroups [0xfe80] 10]

/-- Blocks inside private IPv6 blocks that are public. -/
def publicV6 : List AddressBlock :=
  [ofGroups [0x2001, 1, 0, 0, 0, 0, 0, 1] 128, ofGroups [0x2001, 1, 0, 0, 0, 0, 0, 2] 128,
    ofGroups [0x2001, 3] 32, ofGroups [0x2001, 4, 0x112] 48, ofGroups [0x2001, 0x20] 28,
    ofGroups [0x2001, 0x30] 28]

def reservedV6 : List AddressBlock :=
  [ofGroups [0] 8, ofGroups [0x100] 8, ofGroups [0x200] 7, ofGroups [0x400] 6, ofGroups [0x800] 5,
    ofGroups [0x1000] 4, ofGroups [0x4000] 3, ofGroups [0x6000] 3, ofGroups [0x8000] 3,
    ofGroups [0xa000] 3, ofGroups [0xc000] 3, ofGroups [0xe000] 4, ofGroups [0xf000] 5,
    ofGroups [0xf800] 6, ofGroups [0xfe00] 9]

def multicastV6 : List AddressBlock :=
  [ofGroups [0xff00] 8]

/-- An IPv4 address is internal. -/
def isInternalV4 (bits : Nat) : Bool :=
  (covers privateV4 32 bits && !covers publicV4 32 bits)
    || covers reservedV4 32 bits || covers multicastV4 32 bits

/-- An IPv6 address is internal. -/
def isInternalV6 (bits : Nat) : Bool :=
  (covers privateV6 128 bits && !covers publicV6 128 bits)
    || covers reservedV6 128 bits || covers multicastV6 128 bits

/-- The IPv4 address that an IPv6 one stands for. -/
def mapped? (bits : Nat) : Option Nat :=
  if bits >>> 32 == 0xffff then some (bits % Nat.pow 2 32) else none

def isInternal : Address → Bool
  | .v4 bits => isInternalV4 bits
  | .v6 bits =>
    match mapped? bits with
    | some low => isInternalV4 low
    | none => isInternalV6 bits

end Address

end Orchestra
