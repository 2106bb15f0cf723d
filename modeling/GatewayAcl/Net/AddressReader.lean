import GatewayAcl.Net.Address
import GatewayAcl.Text.Numeral

/-!
# Reading addresses

Addresses are read from the front of a text; what follows is returned. Two
spellings are in use. They differ in two decisions only, so there is one reader
that takes the decisions as a parameter:

- whether an octet may be padded with leading zeros, and
- whether `::` may stand for no group at all.
-/

namespace GatewayAcl.Net

open GatewayAcl.Text

/-- The decisions in which the spellings of addresses differ. -/
structure Spelling where
  /-- An octet may have leading zeros. -/
  paddedOctets : Bool
  /-- `::` may stand between eight groups. -/
  emptyGap : Bool

/-- The spelling of addresses inside networks. -/
def Spelling.lenient : Spelling := ⟨true, true⟩

/-- The spelling of addresses that stand alone. -/
def Spelling.strict : Spelling := ⟨false, false⟩

/-- The text behind a separator, which the first item of a list does not have. -/
def afterSeparator (separator : Char) (first : Bool) (text : List Char) :
    Option (List Char) :=
  if first then some text
  else
    match text with
    | [] => none
    | char :: rest => if char = separator then some rest else none

/-- Digits that are more than a lone zero but begin with one. -/
def isPadded : List Char → Bool
  | '0' :: next :: _ => (digitValue? 10 next).isSome
  | _ => false

/-- An octet: one to three decimal digits, at most 255. -/
def readOctet (spelling : Spelling) (text : List Char) : Option (Nat × List Char) :=
  if isPadded text && !spelling.paddedOctets then none
  else readNumeral 10 3 256 text

def readOctets (spelling : Spelling) :
    Nat → Bool → List Char → Option (List Nat × List Char)
  | 0, _, text => some ([], text)
  | count + 1, first, text => do
      let text ← afterSeparator '.' first text
      let (octet, text) ← readOctet spelling text
      let (octets, text) ← readOctets spelling count false text
      some (octet :: octets, text)

def readV4 (spelling : Spelling) (text : List Char) :
    Option (BitVec 32 × List Char) := do
  let (octets, rest) ← readOctets spelling 4 true text
  some (BitVec.ofNat 32 (ofDigits 256 octets), rest)

/-- A run of groups in front of a text. -/
structure GroupRun where
  groups : List Nat
  /-- The last two groups were written as a version 4 address. -/
  dotted : Bool
  rest : List Char

/-- The longest run of at most `limit` groups with colons between them. A
version 4 address may stand for the last two of them and ends the run. -/
def readGroups (spelling : Spelling) : Nat → Bool → List Char → GroupRun
  | 0, _, text => ⟨[], false, text⟩
  | limit + 1, first, text =>
      let dotted? :=
        if limit = 0 then none
        else afterSeparator ':' first text >>= readOctets spelling 4 true
      match dotted? with
      | some (octets, rest) => ⟨words 65536 2 (ofDigits 256 octets), true, rest⟩
      | none =>
          match afterSeparator ':' first text >>= readNumeral 16 4 65536 with
          | none => ⟨[], false, text⟩
          | some (group, rest) =>
              let run := readGroups spelling limit false rest
              ⟨group :: run.groups, run.dotted, run.rest⟩

/-- The eight groups of a version 6 address: all of them, or `::` once for those
between the groups in front of it and the groups behind it. Octets are not
allowed in front of `::`. -/
def readV6Groups (spelling : Spelling) (text : List Char) :
    Option (List Nat × List Char) :=
  let head := readGroups spelling 8 true text
  let missing := 8 - head.groups.length
  if missing = 0 then some (head.groups, head.rest)
  else if head.dotted then none
  else
    match head.rest with
    | ':' :: ':' :: behind =>
        let limit := if spelling.emptyGap then missing else missing - 1
        let tail := readGroups spelling limit true behind
        let gap := List.replicate (missing - tail.groups.length) 0
        some (head.groups ++ gap ++ tail.groups, tail.rest)
    | _ => none

/-- A version 6 address: eight groups. -/
def readV6 (spelling : Spelling) (text : List Char) :
    Option (BitVec 128 × List Char) := do
  let (groups, rest) ← readV6Groups spelling text
  some (BitVec.ofNat 128 (ofDigits 65536 groups), rest)

/-- An address of either family, version 4 tried first. -/
def readAddress (spelling : Spelling) (text : List Char) :
    Option (Address × List Char) :=
  match readV4 spelling text with
  | some (bits, rest) => some (.v4 bits, rest)
  | none => (readV6 spelling text).map fun (bits, rest) => (.v6 bits, rest)

/-- What was read, if nothing follows it. -/
def whole? {α : Type} : Option (α × List Char) → Option α
  | some (value, []) => some value
  | _ => none

def Address.parse? (spelling : Spelling) (text : String) : Option Address :=
  whole? (readAddress spelling text.toList)

end GatewayAcl.Net
