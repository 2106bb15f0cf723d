import GatewayAcl.Net.Network

/-!
# Members of networks

Which addresses lie in a network, bit by bit: those of its family that share the
bits which its length says.
-/

namespace GatewayAcl.Net

theorem agreeOn_iff {width count : Nat} (left right : BitVec width) :
    agreeOn count left right = true ↔
      ∀ index < count, left.getMsbD index = right.getMsbD index := by
  rw [agreeOn, beq_iff_eq]
  constructor
  · intro shifted index inFront
    by_cases inside : index < width
    · have bit := congrArg (·.getLsbD (width - 1 - index - (width - count))) shifted
      have position : width - count + (width - 1 - index - (width - count)) =
          width - 1 - index := by omega
      simp only [BitVec.getLsbD_ushiftRight, position] at bit
      simpa [BitVec.getMsbD, inside] using bit
    · simp [BitVec.getMsbD, inside]
  · intro bits
    apply BitVec.eq_of_getLsbD_eq
    intro position _
    rw [BitVec.getLsbD_ushiftRight, BitVec.getLsbD_ushiftRight]
    by_cases inside : width - count + position < width
    · have bit := bits (width - 1 - (width - count + position)) (by omega)
      have index : width - 1 - (width - 1 - (width - count + position)) =
          width - count + position := by omega
      have within : width - 1 - (width - count + position) < width := by omega
      simpa only [BitVec.getMsbD, within, decide_true, Bool.true_and, index] using bit
    · rw [BitVec.getLsbD_of_ge _ _ (by omega), BitVec.getLsbD_of_ge _ _ (by omega)]

/-- The bit at a position of an address, counted from its front. -/
def Address.bit : Address → Nat → Bool
  | .v4 bits, index => bits.getMsbD index
  | .v6 bits, index => bits.getMsbD index

/-- Two addresses of one family share their first bits. -/
def Address.Shares (count : Nat) (left right : Address) : Prop :=
  left.family = right.family ∧ ∀ index < count, left.bit index = right.bit index

theorem Network.mem_iff_shares (network : Network) (address : Address) :
    address ∈ network ↔ network.address.Shares network.length address := by
  change network.contains address = true ↔ _
  cases network with
  | v4 bits length =>
      cases address with
      | v4 other =>
          simp [contains, Network.address, Network.length, Address.Shares, Address.family,
            Address.bit, agreeOn_iff]
      | v6 other => simp [contains, Network.address, Address.Shares, Address.family]
  | v6 bits length =>
      cases address with
      | v4 other => simp [contains, Network.address, Address.Shares, Address.family]
      | v6 other =>
          simp [contains, Network.address, Network.length, Address.Shares, Address.family,
            Address.bit, agreeOn_iff]

end GatewayAcl.Net
