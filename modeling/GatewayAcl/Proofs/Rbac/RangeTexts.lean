import GatewayAcl.AlwaysAllowed
import GatewayAcl.Proofs.Net.CanonicalText
import GatewayAcl.Proofs.Rbac.Evaluation
import GatewayAcl.Proofs.RuleValidation

/-!
# Texts of ranges

A network becomes a range whose address is a text.  Nothing of the network is lost on the way:
with its length behind a slash the text is the network's canonical text, from which the network
is read back wherever networks are read.
-/

namespace GatewayAcl

open Net

namespace Rbac

/-- The text of a range: its address, a slash and the number of the bits that count. -/
def CidrRange.print (range : CidrRange) : String :=
  range.addressPrefix ++ "/" ++ toString range.prefixLength.toNat

@[simp] theorem CidrRange.print_ofNetwork (network : Network) :
    (ofNetwork network).print = network.print := by
  rw [print, toNat_prefixLength_ofNetwork, ← String.toList_inj, Network.toList_print]
  simp [ofNetwork, Address.print, Network.written, Text.decimal]

theorem CidrRange.ofNetwork_injective : Function.Injective ofNetwork := by
  intro network other same
  have texts := congrArg (fun range => Network.parse? range.print) same
  simpa using texts

theorem Principal.inNetwork_inj {matcher otherMatcher : Matcher} {network other : Network} :
    inNetwork matcher network = inNetwork otherMatcher other ↔
      matcher = otherMatcher ∧ network = other := by
  rw [inNetwork, inNetwork, Principal.address.injEq, CidrRange.ofNetwork_injective.eq_iff]

end Rbac

/-! ## Where networks are read -/

theorem ClusterNetworks.parse_print (network : Network) :
    parse ⟨some network.print, some network.print⟩ = .ok ⟨some network, some network⟩ := by
  have read (role : NetworkRole) :
      parseOptional role (some network.print) = .ok (some network) := by
    simp only [parseOptional, Network.parse?_print]
  simp only [parse, read]
  rfl

/-- A network that is written down makes the rule of that network. -/
theorem Rule.validate_print (action : Action) (matcher : Matcher) (network : Network) :
    validate (some ⟨action.name, matcher.name, [network.print]⟩) =
      .ok ⟨action, matcher, [network]⟩ := by
  apply validate_some_eq_ok_iff.mpr
  have spells : (Rule.mk action matcher [network]).draft.Spells ⟨action, matcher, [network]⟩ :=
    spells_draft (List.cons_ne_nil network [])
  exact spells

/-- The text of a network is lossless.  A principal for the network has a range whose text is the
network's, and the same network is read from it in a rule and as a cluster's network.  So no
other network and no other matcher make the same principal.  Whatever spells the network becomes
its canonical text when it is written again, and of all these texts the canonical one is the only
one that does not change. -/
theorem Rbac.Principal.inNetwork_lossless (matcher : Matcher) (network : Network) :
    (∃ range, inNetwork matcher network = .address matcher range ∧
      range.addressPrefix ++ "/" ++ toString range.prefixLength.toNat = network.print ∧
      Network.parse? network.print = some network ∧
      (∀ action, Rule.validate (some ⟨action.name, matcher.name, [network.print]⟩) =
        .ok ⟨action, matcher, [network]⟩) ∧
      ClusterNetworks.parse ⟨some network.print, some network.print⟩ =
        .ok ⟨some network, some network⟩) ∧
    (∀ otherMatcher other, inNetwork otherMatcher other = inNetwork matcher network →
      otherMatcher = matcher ∧ other = network) ∧
    Network.Canonical network.print.toList network ∧
    ∀ text : String, Network.Spelled text.toList network →
      Network.rewrite? text = some network.print ∧
      (Network.rewrite? text = some text ↔ Network.Canonical text.toList network) := by
  refine ⟨?_, ?_, Network.canonical_iff.mpr rfl, ?_⟩
  · refine ⟨.ofNetwork network, rfl, CidrRange.print_ofNetwork network, network.parse?_print, ?_,
      ClusterNetworks.parse_print network⟩
    intro action
    exact Rule.validate_print action matcher network
  · intro otherMatcher other same
    exact inNetwork_inj.mp same
  · intro text spelled
    refine ⟨Network.rewrite?_of_spelled spelled, ?_⟩
    rw [Network.canonical_iff, ← Network.rewrite?_eq_self_iff]
    exact (and_iff_right spelled).symm

end GatewayAcl
