import GatewayAcl.Proofs.Net.Membership
import GatewayAcl.Proofs.Net.WrittenAddresses
import GatewayAcl.Rbac.Semantics

/-!
# Evaluation of access filters

Small facts about what principals, ranges and filters do: a set of principals is a
quantifier, a range holds the addresses that share the leading bits of the
address in its text, and a filter with one policy does what its principals say.
-/

namespace GatewayAcl.Rbac

open Net

namespace Principal

@[simp] theorem holdsAny_iff (request : Request) (ids : List Principal) :
    holdsAny request ids = true ↔ ∃ id ∈ ids, id.holds request = true := by
  induction ids with
  | nil => simp [holdsAny]
  | cons id ids ih => simp [holdsAny, ih]

@[simp] theorem holdsAll_iff (request : Request) (ids : List Principal) :
    holdsAll request ids = true ↔ ∀ id ∈ ids, id.holds request = true := by
  induction ids with
  | nil => simp [holdsAll]
  | cons id ids ih => simp [holdsAll, ih]

theorem holds_any (request : Request) (ids : List Principal) :
    (Principal.any ids).holds request = true ↔ ∃ id ∈ ids, id.holds request = true := by
  rw [holds, holdsAny_iff]

theorem holds_pair (request : Request) (first second : Principal) :
    (Principal.all [first, second]).holds request = true ↔
      first.holds request = true ∧ second.holds request = true := by
  rw [holds, holdsAll_iff]
  simp

theorem holds_not (request : Request) (id : Principal) :
    (Principal.not id).holds request = true ↔ ¬ id.holds request = true := by
  simp [holds]

end Principal

namespace CidrRange

/-- The members of a range are the addresses that share the leading bits of the
address in its text. -/
theorem contains_iff_shares (range : CidrRange) (address : Address) :
    range.contains address = true ↔
      ∃ read, Address.parse? .strict range.addressPrefix = some read ∧
        read.Shares range.prefixLength.toNat address := by
  unfold contains
  cases Address.parse? .strict range.addressPrefix with
  | none => simp
  | some read =>
      cases read <;> cases address <;>
        simp [Address.Shares, Address.family, Address.bit, agreeOn_iff]

theorem length_le (network : Network) : network.length ≤ 128 := by
  cases network with
  | v4 bits length => exact Nat.le_of_lt (Nat.lt_of_lt_of_le length.isLt (by decide))
  | v6 bits length => exact Nat.le_of_lt_succ length.isLt

@[simp] theorem toNat_prefixLength_ofNetwork (network : Network) :
    (ofNetwork network).prefixLength.toNat = network.length := by
  have short := length_le network
  exact UInt32.toNat_ofNat_of_lt' (Nat.lt_of_le_of_lt short (by decide))

/-- The range of a network has the members of the network, although the address
travels as text. -/
@[simp] theorem contains_ofNetwork (network : Network) (address : Address) :
    (ofNetwork network).contains address = true ↔ address ∈ network := by
  rw [contains_iff_shares, Network.mem_iff_shares, toNat_prefixLength_ofNetwork]
  rw [ofNetwork, Address.parse?_print]
  constructor
  · rintro ⟨read, same, shares⟩
    cases same
    exact shares
  · intro shares
    exact ⟨network.address, rfl, shares⟩

end CidrRange

@[simp] theorem Principal.holds_inNetwork (request : Request) (matcher : Matcher)
    (network : Network) :
    (Principal.inNetwork matcher network).holds request = true ↔
      request.address matcher ∈ network := by
  simp [Principal.inNetwork, Principal.holds]

theorem occursIn_iff (part text : List Char) : occursIn part text = true ↔ part <:+: text := by
  induction text with
  | nil => simp [occursIn]
  | cons char rest ih =>
      rw [occursIn, Bool.or_eq_true, ih, List.isPrefixOf_iff_prefix, List.infix_cons_iff]

/-- A principal for a part of a header looks for it in the value, if there is one. -/
@[simp] theorem Principal.holds_headerContains (request : Request) (name part : String) :
    (Principal.headerContains name part).holds request = true ↔
      ∃ value, request.header? name = some value ∧ part.toList <:+: value.toList := by
  rw [Principal.headerContains, Principal.holds, HeaderMatcher.holds]
  cases request.header? name with
  | none => simp
  | some value => simp [StringMatcher.holds, occursIn_iff]

/-- A filter with one policy permits what the policy matches, or what it does not
match. -/
theorem Filter.permits_single (name typeUrl : String) (statPrefix : Option String)
    (action : Action) (principals : List Principal) (request : Request) :
    (Filter.single name typeUrl statPrefix action principals).permits request = true ↔
      match action with
      | .allow => ∃ id ∈ principals, id.holds request = true
      | .deny => ¬ ∃ id ∈ principals, id.holds request = true := by
  cases action with
  | allow =>
      rw [← Principal.holdsAny_iff]
      simp [Filter.permits, Filter.single, Dictionary.values, Dictionary.singleton,
        Policy.applies, -Principal.holdsAny_iff]
  | deny =>
      rw [← Principal.holdsAny_iff]
      simp [Filter.permits, Filter.single, Dictionary.values, Dictionary.singleton,
        Policy.applies, -Principal.holdsAny_iff]

end GatewayAcl.Rbac
