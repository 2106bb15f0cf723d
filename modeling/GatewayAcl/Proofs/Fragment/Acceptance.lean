import GatewayAcl.Fragment.Guard
import GatewayAcl.Proofs.Rbac.Evaluation
import GatewayAcl.Proofs.RuleValidation

/-!
# Filters that the gateway accepts

The gateway refuses the whole update of a listener if one filter in it is malformed: a set
of principals must not be empty at any depth, and a range needs an address with no more
leading bits than its family has.  Every fragment that is compiled from validated rules is
accepted, since a validated rule has a network.
-/

namespace GatewayAcl

open Net Rbac

theorem Net.Network.length_le_width (network : Network) :
    network.length ≤ network.address.family.width := by
  cases network with
  | v4 bits length => exact Nat.le_of_lt_succ length.isLt
  | v6 bits length => exact Nat.le_of_lt_succ length.isLt

namespace Rbac

/-- A range stands for a network: its text spells the network's address, and its length is
the network's, which the family of that address has room for. -/
structure CidrRange.StandsFor (range : CidrRange) (network : Network) : Prop where
  address : Spelling.strict.Spells range.addressPrefix.toList network.address
  length : range.prefixLength.toNat = network.length
  fits : range.prefixLength.toNat ≤ network.address.family.width

theorem CidrRange.standsFor_ofNetwork (network : Network) :
    (ofNetwork network).StandsFor network where
  address := by
    rw [ofNetwork, Address.print, String.toList_ofList]
    exact network.address.spells_written .strict
  length := toNat_prefixLength_ofNetwork network
  fits := by
    rw [toNat_prefixLength_ofNetwork]
    exact network.length_le_width

/-- The gateway accepts a principal: no set in it is empty, at any depth.  Its addresses are
selected by the given matcher and compared with ranges of the given networks. -/
inductive Principal.Accepted (matcher : Matcher) (networks : List Network) : Principal → Prop where
  | address {range : CidrRange} {network : Network} :
      network ∈ networks → range.StandsFor network →
        Accepted matcher networks (.address matcher range)
  | all {ids : List Principal} :
      ids ≠ [] → (∀ id ∈ ids, Accepted matcher networks id) → Accepted matcher networks (.all ids)
  | any {ids : List Principal} :
      ids ≠ [] → (∀ id ∈ ids, Accepted matcher networks id) → Accepted matcher networks (.any ids)
  | not {id : Principal} : Accepted matcher networks id → Accepted matcher networks (.not id)
  | header (condition : HeaderMatcher) : Accepted matcher networks (.header condition)

theorem Principal.Accepted.pair {matcher : Matcher} {networks : List Network}
    {first second : Principal} (acceptedFirst : first.Accepted matcher networks)
    (acceptedSecond : second.Accepted matcher networks) :
    (Principal.all [first, second]).Accepted matcher networks := by
  apply Accepted.all (List.cons_ne_nil first [second])
  simpa using ⟨acceptedFirst, acceptedSecond⟩

/-- A filter holds exactly one policy, under the filter's own name.  The policy grants
everything, and there are principals that it grants it to. -/
structure Filter.HoldsFor (filter : Filter) (principals : List Principal) : Prop where
  policies : filter.config.rules.policies.entries = [(filter.name, ⟨[.any true], principals⟩)]
  nonempty : principals ≠ []

theorem Filter.holdsFor_single {principals : List Principal} (nonempty : principals ≠ [])
    (name typeUrl : String) (statPrefix : Option String) (action : Action) :
    (Filter.single name typeUrl statPrefix action principals).HoldsFor principals where
  policies := rfl
  nonempty := nonempty

end Rbac

/-- A rule is what some draft was validated as. -/
def Rule.IsValidated (rule : Rule) : Prop :=
  ∃ draft?, validate draft? = .ok rule

theorem Rule.IsValidated.networks_ne_nil {rule : Rule} (validated : rule.IsValidated) :
    rule.networks ≠ [] := by
  have ⟨draft?, accepted⟩ := validated
  have ⟨draft, _, spells⟩ := validate_eq_ok_iff.mp accepted
  exact networks_ne_nil_of_spells spells

namespace Guard

/-- The networks that a guard names: those of its rule and the exempt ones. -/
def networks (guard : Guard) : List Network :=
  guard.rule.networks ++ guard.exempt

/-- The gateway accepts a principal as one of a guard. -/
def Accepts (guard : Guard) (id : Principal) : Prop :=
  id.Accepted guard.rule.matcher guard.networks

end Guard

/-- The gateway accepts a filter that is to guard connections. -/
structure Rbac.Filter.GuardsConnections (filter : Filter) (guard : Guard) : Prop where
  typeUrl : filter.config.typeUrl =
    "type.googleapis.com/envoy.extensions.filters.network.rbac.v3.RBAC"
  statPrefix : filter.config.statPrefix = some "envoyrbac"
  action : filter.config.rules.action = guard.rule.action
  principals : ∃ principals, filter.HoldsFor principals ∧ ∀ id ∈ principals, guard.Accepts id

/-- The gateway accepts a filter that is to guard tunnels, each by a principal of its own. -/
structure Rbac.Filter.GuardsTunnels (filter : Filter) (guards : List Guard) : Prop where
  typeUrl : filter.config.typeUrl =
    "type.googleapis.com/envoy.extensions.filters.http.rbac.v3.RBAC"
  statPrefix : filter.config.statPrefix = none
  action : filter.config.rules.action = .deny
  principals : ∃ principals, filter.HoldsFor principals ∧
    List.Forall₂ Guard.Accepts guards principals

namespace Guard

variable {guard : Guard}

theorem accepts_inNetworks {networks : List Network} (named : networks ⊆ guard.networks) :
    ∀ id ∈ guard.inNetworks networks, guard.Accepts id := by
  intro id listed
  obtain ⟨network, member, rfl⟩ := List.mem_map.mp listed
  exact .address (named member) (CidrRange.standsFor_ofNetwork network)

theorem accepts_any_inNetworks {networks : List Network} (named : networks ⊆ guard.networks)
    (nonempty : networks ≠ []) : guard.Accepts (.any (guard.inNetworks networks)) := by
  apply Principal.Accepted.any
  · simpa [inNetworks] using nonempty
  · exact accepts_inNetworks named

/-- A rule with networks has principals, whatever its action and the exempt networks. -/
theorem principals_ne_nil (nonempty : guard.rule.networks ≠ []) : guard.principals ≠ [] := by
  simp only [principals]
  split
  · simp [inNetworks, nonempty]
  · simpa [inNetworks] using nonempty
  · exact List.cons_ne_nil _ _

theorem accepts_principals (nonempty : guard.rule.networks ≠ []) :
    ∀ id ∈ guard.principals, guard.Accepts id := by
  have inRule : guard.rule.networks ⊆ guard.networks := List.subset_append_left _ _
  have inExempt : guard.exempt ⊆ guard.networks := List.subset_append_right _ _
  simp only [principals]
  split
  · exact List.forall_mem_append.mpr ⟨accepts_inNetworks inRule, accepts_inNetworks inExempt⟩
  · exact accepts_inNetworks inRule
  · next exemptSome =>
      -- The list stays flat without exempt networks, so neither set can be empty here.
      have carvedOut := accepts_any_inNetworks inExempt (by simpa using exemptSome)
      rw [List.forall_mem_singleton]
      exact .pair (accepts_any_inNetworks inRule nonempty) (.not carvedOut)

theorem accepts_tunnelPrincipal (nonempty : guard.rule.networks ≠ []) (shootId : String) :
    guard.Accepts (guard.tunnelPrincipal shootId) := by
  have accepted : guard.Accepts (.any guard.principals) :=
    .any (principals_ne_nil nonempty) (accepts_principals nonempty)
  simp only [tunnelPrincipal]
  split
  · exact .pair (.not accepted) (.header _)
  · exact .pair accepted (.header _)

theorem guardsConnections_networkFilter (validated : guard.rule.IsValidated) (name : String) :
    (guard.networkFilter name).GuardsConnections guard where
  typeUrl := rfl
  statPrefix := rfl
  action := rfl
  principals := by
    have nonempty := validated.networks_ne_nil
    refine ⟨guard.principals, ?_, accepts_principals nonempty⟩
    exact Filter.holdsFor_single (principals_ne_nil nonempty) _ _ _ _

end Guard

theorem guardsTunnels_tunnelPatch {guards : List Guard} {principals : List Principal}
    (nonempty : principals ≠ []) (accepted : List.Forall₂ Guard.Accepts guards principals)
    (name : String) : (tunnelPatch name principals).filter.GuardsTunnels guards where
  typeUrl := rfl
  statPrefix := rfl
  action := rfl
  principals := ⟨principals, Filter.holdsFor_single nonempty _ _ _ _, accepted⟩

namespace Guard

/-- The gateway accepts every fragment of validated rules: the one for the chain inside, the
one for a public API endpoint with hosts, the one for a tunnel, and the one for the tunnels of
several shoots, in which each shoot has a principal of its own guard. -/
theorem fragments_accepted {guard : Guard} (validated : guard.rule.IsValidated) :
    guard.internal.filter.GuardsConnections guard ∧
    (∀ hosts : List String, hosts ≠ [] → ∃ fragment, guard.publicApi hosts = .ok fragment ∧
      fragment.kind = .publicApi ∧ fragment.filter.GuardsConnections guard) ∧
    (∀ shootId, (guard.vpn shootId).filter.GuardsTunnels [guard]) ∧
    ∀ tenants : List Tenant, tenants ≠ [] →
      (∀ tenant ∈ tenants, tenant.guard.rule.IsValidated) →
        (Tenant.legacyVpn tenants).filter.GuardsTunnels (tenants.map Tenant.guard) := by
  refine ⟨guardsConnections_networkFilter validated _, ?_, ?_, ?_⟩
  · intro hosts given
    obtain ⟨host, others, rfl⟩ := List.exists_cons_of_ne_nil given
    exact ⟨_, rfl, rfl, guardsConnections_networkFilter validated _⟩
  · intro shootId
    apply guardsTunnels_tunnelPatch (List.cons_ne_nil _ _)
    exact .cons (accepts_tunnelPrincipal validated.networks_ne_nil shootId) .nil
  · intro tenants nonempty validatedEach
    apply guardsTunnels_tunnelPatch (by simpa using nonempty)
    rw [List.forall₂_map_left_iff, List.forall₂_map_right_iff, List.forall₂_same]
    intro tenant member
    exact accepts_tunnelPrincipal (validatedEach tenant member).networks_ne_nil _

namespace Demo

/-- A draft with a network of either family and of full length, one of them around a mapped
address. -/
def draft : DraftRule := ⟨"DENY", "remote_ip", ["10.0.0.1/32", "::ffff:192.0.2.0/128"]⟩

def rule : Rule where
  action := .deny
  matcher := .remoteIp
  networks := [.v4 0x0a000001#32 (Fin.last 32), .v6 0xffffc0000200#128 (Fin.last 128)]

/-- The rule without exempt networks. -/
def plain : Guard := ⟨rule, []⟩

/-- The rule with an exempt network, which is carved out. -/
def carved : Guard := ⟨rule, [.v6 0x20010db8000000000000000000000000#128 (Fin.last 128)]⟩

theorem isValidated_rule : rule.IsValidated :=
  ⟨some draft, by decide +kernel⟩

end Demo

/-- Guards with and without exempt networks, alone and in one list of tenants. -/
theorem fragments_accepted_demo :
    Demo.rule.IsValidated ∧
    Demo.carved.internal.filter.GuardsConnections Demo.carved ∧
    (∃ fragment, Demo.carved.publicApi ["api.example.org"] = .ok fragment ∧
      fragment.kind = .publicApi ∧ fragment.filter.GuardsConnections Demo.carved) ∧
    (Demo.carved.vpn "shoot-a").filter.GuardsTunnels [Demo.carved] ∧
    (Tenant.legacyVpn [⟨"shoot-a", Demo.carved⟩, ⟨"shoot-b", Demo.plain⟩]).filter.GuardsTunnels
      [Demo.carved, Demo.plain] := by
  have validated : Demo.carved.rule.IsValidated := Demo.isValidated_rule
  have ⟨inside, endpoint, tunnel, tunnels⟩ := fragments_accepted validated
  refine ⟨validated, inside, endpoint _ (List.cons_ne_nil _ _), tunnel "shoot-a", ?_⟩
  apply tunnels [⟨"shoot-a", Demo.carved⟩, ⟨"shoot-b", Demo.plain⟩] (List.cons_ne_nil _ _)
  intro tenant member
  simp only [List.mem_cons, List.not_mem_nil, or_false] at member
  cases member with
  | inl isCarved => exact isCarved ▸ validated
  | inr isPlain => exact isPlain ▸ Demo.isValidated_rule

end Guard

end GatewayAcl
