import GatewayAcl.Net.AddressReader
import GatewayAcl.Net.AddressPrinter

/-!
# Networks

A network is an address with the number of leading bits that its members share.
The bits behind that length are kept, so `10.0.0.1/8` and `10.0.0.0/8` are two
networks with the same members.
-/

namespace GatewayAcl.Net

open GatewayAcl.Text

/-- An address and a length within its family's width. -/
inductive Network where
  | v4 (bits : BitVec 32) (length : Fin 33)
  | v6 (bits : BitVec 128) (length : Fin 129)
  deriving DecidableEq, Repr

namespace Network

/-- The address that the network was given by. -/
def address : Network → Address
  | .v4 bits _ => .v4 bits
  | .v6 bits _ => .v6 bits

/-- The number of leading bits that count. -/
def length : Network → Nat
  | .v4 _ length => length
  | .v6 _ length => length

/-- The network that holds one address only. -/
def host : Address → Network
  | .v4 bits => .v4 bits (Fin.last 32)
  | .v6 bits => .v6 bits (Fin.last 128)

/-- An address lies in a network of its own family if it agrees with the
network's address on the bits that count. -/
def contains : Network → Address → Bool
  | .v4 bits length, .v4 other => agreeOn length bits other
  | .v6 bits length, .v6 other => agreeOn length bits other
  | _, _ => false

instance : Membership Address Network where
  mem network address := network.contains address = true

instance (address : Address) (network : Network) : Decidable (address ∈ network) :=
  inferInstanceAs (Decidable (network.contains address = true))

def written (network : Network) : List Char :=
  network.address.written ++ '/' :: decimal network.length

/-- The written form of a network: its address, a slash and its length. -/
def print (network : Network) : String :=
  String.ofList network.written

/-- A slash and a length below `bound` of at most `maxDigits` digits. -/
def readLength (maxDigits bound : Nat) (text : List Char) : Option (Nat × List Char) :=
  afterSeparator '/' false text >>= readNumeral 10 maxDigits bound

def readV4Network (text : List Char) : Option (Network × List Char) := do
  let (bits, text) ← readV4 .lenient text
  let (length, rest) ← readLength 2 33 text
  some (.v4 bits (Fin.ofNat 33 length), rest)

def readV6Network (text : List Char) : Option (Network × List Char) := do
  let (bits, text) ← readV6 .lenient text
  let (length, rest) ← readLength 3 129 text
  some (.v6 bits (Fin.ofNat 129 length), rest)

/-- A network in front of a text, version 4 tried first. -/
def readNetwork (text : List Char) : Option (Network × List Char) :=
  readV4Network text <|> readV6Network text

/-- The network that characters spell, with nothing before or behind it. -/
def ofChars? (text : List Char) : Option Network :=
  whole? (readNetwork text)

def parse? (text : String) : Option Network :=
  ofChars? text.toList

end Network

/-- The explanation given for every text that spells no address or network. -/
def malformedAddress : String := "invalid IP address syntax"

end GatewayAcl.Net
