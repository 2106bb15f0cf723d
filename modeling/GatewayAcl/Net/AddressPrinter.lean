import GatewayAcl.Net.Address
import GatewayAcl.Text.Numeral
import GatewayAcl.Text.Pieces

/-!
# Writing addresses

Each address has one written form. Version 4 addresses are four decimal octets.
Version 6 addresses are hexadecimal groups without leading zeros in which `::`
stands for the first of the longest runs of zero groups, if it has two or more;
addresses that hold a version 4 address after the mapping mark `::ffff:` show it
in octets.
-/

namespace GatewayAcl.Net

open GatewayAcl.Text

/-- Octets in decimal with dots between them. -/
def printOctets (bits : BitVec 32) : List Char :=
  joined ['.'] ((octets bits).map decimal)

/-- Groups in hexadecimal with colons between them. -/
def printGroups (groups : List Nat) : List Char :=
  joined [':'] (groups.map hexadecimal)

/-- The position and the length of the first of the longest runs of zeros in a
list that begins at position `start`. -/
def longestZeroRun (start : Nat) : List Nat → Nat × Nat
  | [] => (start, 0)
  | group :: rest =>
      let here := ((group :: rest).takeWhile (· == 0)).length
      let later := longestZeroRun (start + 1) rest
      if here < later.2 then later else (start, here)

/-- Groups with `::` for the first longest run of two or more zeros. -/
def printCompressed (groups : List Nat) : List Char :=
  let (start, length) := longestZeroRun 0 groups
  if 2 ≤ length then
    printGroups (groups.take start) ++ [':', ':'] ++ printGroups (groups.drop (start + length))
  else printGroups groups

/-- The version 4 address inside a version 6 address of the form
`::ffff:a.b.c.d`. -/
def mapped? (bits : BitVec 128) : Option (BitVec 32) :=
  if bits >>> 32 = 0xffff#128 then some (bits.setWidth 32) else none

def printV6 (bits : BitVec 128) : List Char :=
  match mapped? bits with
  | some low => "::ffff:".toList ++ printOctets low
  | none => printCompressed (groups bits)

def Address.written : Address → List Char
  | .v4 bits => printOctets bits
  | .v6 bits => printV6 bits

def Address.print (address : Address) : String :=
  String.ofList address.written

end GatewayAcl.Net
