/-!
# Internet addresses

An address of either family is a word of that family's width, so an address
cannot be out of range and two addresses of different families are never equal.
-/

namespace GatewayAcl.Net

inductive Family where
  | v4
  | v6
  deriving DecidableEq, Repr

def Family.width : Family → Nat
  | .v4 => 32
  | .v6 => 128

/-- An address of one of the two families. -/
inductive Address where
  | v4 (bits : BitVec 32)
  | v6 (bits : BitVec 128)
  deriving DecidableEq, Repr

namespace Address

def family : Address → Family
  | .v4 _ => .v4
  | .v6 _ => .v6

end Address

/-- The last `count` digits of a number in a radix, the most significant first.
Octets are the digits in radix 256, and groups those in radix 65536. -/
def words (radix : Nat) : Nat → Nat → List Nat
  | 0, _ => []
  | count + 1, number => words radix count (number / radix) ++ [number % radix]

def octets (bits : BitVec 32) : List Nat :=
  words 256 4 bits.toNat

def groups (bits : BitVec 128) : List Nat :=
  words 65536 8 bits.toNat

/-- Two words agree on their first `count` bits. -/
def agreeOn {width : Nat} (count : Nat) (left right : BitVec width) : Bool :=
  left >>> (width - count) == right >>> (width - count)

end GatewayAcl.Net
