import GatewayAcl.Proofs.Net.Membership
import GatewayAcl.Proofs.Net.SpelledNetworks

/-!
# Networks of one host

The network of one address holds that address only.  What spells an address where addresses
stand alone spells it in front of a length, too, where more spellings are allowed.  So the
two readers find the same host.
-/

namespace GatewayAcl.Net

open Text

namespace Spelling

variable {spelling : Spelling} {text : List Char} {octets groups : List Nat} {dotted : Bool}

/-! ## The strict spelling is allowed everywhere -/

theorem IsOctet.of_strict {octet : Nat} (isOctet : strict.IsOctet text octet) :
    spelling.IsOctet text octet where
  isNumeral := isOctet.isNumeral
  below := isOctet.below
  plain _ := isOctet.plain rfl

theorem Octets.of_strict (spelled : strict.Octets text octets) : spelling.Octets text octets := by
  induction spelled with
  | last isOctet => exact .last isOctet.of_strict
  | cons isOctet _ ih => exact .cons isOctet.of_strict ih

theorem V4.of_strict {bits : BitVec 32} (spelled : strict.V4 text bits) :
    spelling.V4 text bits := by
  have ⟨octets, spelledOctets, four, isBits⟩ := spelled
  exact ⟨octets, spelledOctets.of_strict, four, isBits⟩

theorem Groups.of_strict (spelled : strict.Groups dotted text groups) :
    spelling.Groups dotted text groups := by
  induction spelled with
  | last isNumeral => exact .last isNumeral
  | dotted spelledOctets four => exact .dotted spelledOctets.of_strict four
  | cons isNumeral _ ih => exact .cons isNumeral ih

theorem Side.of_strict (spelled : strict.Side dotted text groups) :
    spelling.Side dotted text groups := by
  cases spelled with
  | nothing => exact .nothing
  | groups spelledGroups => exact .groups spelledGroups.of_strict

theorem V6Groups.of_strict (spelled : strict.V6Groups text groups) :
    spelling.V6Groups text groups := by
  cases spelled with
  | full spelledGroups eight => exact .full spelledGroups.of_strict eight
  | @gap dotted front back before behind spelledFront spelledBack fewer fits =>
      -- A gap for at least one group is a gap for any number of them.
      have atMostSeven : before.length + behind.length ≤ 7 := fits
      have roomy : before.length + behind.length ≤ if spelling.emptyGap then 8 else 7 := by
        split
        · exact Nat.le_succ_of_le atMostSeven
        · exact atMostSeven
      exact .gap spelledFront.of_strict spelledBack.of_strict fewer roomy

theorem V6.of_strict {bits : BitVec 128} (spelled : strict.V6 text bits) :
    spelling.V6 text bits := by
  have ⟨groups, spelledGroups, isBits⟩ := spelled
  exact ⟨groups, spelledGroups.of_strict, isBits⟩

end Spelling

namespace Network

/-! ## The network of a host -/

@[simp] theorem length_host (address : Address) :
    (host address).length = address.family.width := by
  cases address <;> rfl

theorem agreeOn_width {width : Nat} {left right : BitVec width} :
    agreeOn width left right = true ↔ left = right := by
  rw [agreeOn, Nat.sub_self, BitVec.ushiftRight_zero, BitVec.ushiftRight_zero, beq_iff_eq]

theorem mem_host_iff {address other : Address} : other ∈ host address ↔ other = address := by
  change (host address).contains other = true ↔ other = address
  cases address with
  | v4 bits =>
      cases other with
      | v4 bits' =>
          change agreeOn 32 bits bits' = true ↔ _
          rw [agreeOn_width, Address.v4.injEq, eq_comm]
      | v6 bits' => simp [host, contains]
  | v6 bits =>
      cases other with
      | v4 bits' => simp [host, contains]
      | v6 bits' =>
          change agreeOn 128 bits bits' = true ↔ _
          rw [agreeOn_width, Address.v6.injEq, eq_comm]

/-- What spells an address strictly spells the network of that host with the full length
behind a slash. -/
theorem spelled_host {text : List Char} {address : Address}
    (spelled : Spelling.strict.Spells text address) :
    Spelled (text ++ '/' :: decimal address.family.width) (host address) := by
  cases spelled with
  | v4 spelledBits =>
      have short : 32 < Nat.pow 10 2 := by decide
      exact .v4 spelledBits.of_strict
        (isNumeral_toDigits (by decide) (by decide) (by decide) short)
  | v6 spelledBits =>
      have short : 128 < Nat.pow 10 3 := by decide
      exact .v6 spelledBits.of_strict
        (isNumeral_toDigits (by decide) (by decide) (by decide) short)

/-- The two readers agree: the address that stands alone, and the network that the same text
is with the full length behind it. -/
theorem parse?_host {text : String} {address : Address}
    (spelled : Spelling.strict.Spells text.toList address) :
    parse? (text ++ "/" ++ toString address.family.width) = some (host address) := by
  have characters : (text ++ "/" ++ toString address.family.width).toList =
      text.toList ++ '/' :: decimal address.family.width := by
    simp [decimal]
  rw [parse?_eq_some_iff, characters]
  exact spelled_host spelled

end Network

end GatewayAcl.Net
