import GatewayAcl.Fragment.Guard
import GatewayAcl.Proofs.Rbac.Evaluation

/-!
# What compiled guards enforce

The policy of a guard as a set of addresses, and the statement that its compiled
fragments permit exactly these.  A rule with or without exempt networks, flat or
nested principals and either family of addresses all come to the same verdict.
-/

namespace GatewayAcl

open Net Rbac

/-- The addresses that a rule lets through by itself. -/
def Rule.Admits (rule : Rule) (address : Address) : Prop :=
  match rule.action with
  | .allow => ∃ network ∈ rule.networks, address ∈ network
  | .deny => ∀ network ∈ rule.networks, address ∉ network

namespace Guard

/-- The addresses that a guard lets through: those of its rule and those of its
exempt networks. -/
def Admits (guard : Guard) (address : Address) : Prop :=
  guard.rule.Admits address ∨ ∃ network ∈ guard.exempt, address ∈ network

/-- Some principal of a list of networks matches if the selected address lies in
one of them. -/
theorem holds_inNetworks (guard : Guard) (networks : List Network) (request : Request) :
    (∃ id ∈ guard.inNetworks networks, id.holds request = true) ↔
      ∃ network ∈ networks, request.address guard.rule.matcher ∈ network := by
  simp only [inNetworks, List.mem_map]
  constructor
  · rintro ⟨id, ⟨network, member, rfl⟩, holds⟩
    exact ⟨network, member, (Principal.holds_inNetwork _ _ _).mp holds⟩
  · rintro ⟨network, member, inside⟩
    exact ⟨_, ⟨network, member, rfl⟩, (Principal.holds_inNetwork _ _ _).mpr inside⟩

/-- The nested principal takes the second list of networks out of the first. -/
theorem holds_carvedOut (guard : Guard) (denied exempt : List Network) (request : Request) :
    (Principal.all [.any (guard.inNetworks denied),
        .not (.any (guard.inNetworks exempt))]).holds request = true ↔
      (∃ network ∈ denied, request.address guard.rule.matcher ∈ network) ∧
        ¬ ∃ network ∈ exempt, request.address guard.rule.matcher ∈ network := by
  rw [Principal.holds_pair, Principal.holds_not, Principal.holds_any, Principal.holds_any,
    holds_inNetworks, holds_inNetworks]

/-- The principals of a guard match what its action applies to: the admitted
addresses of a rule that allows, and the others of a rule that denies. -/
theorem holds_principals (guard : Guard) (request : Request) :
    (∃ id ∈ guard.principals, id.holds request = true) ↔
      match guard.rule.action with
      | .allow => guard.Admits (request.address guard.rule.matcher)
      | .deny => ¬ guard.Admits (request.address guard.rule.matcher) := by
  have inRule := guard.holds_inNetworks guard.rule.networks request
  have inExempt := guard.holds_inNetworks guard.exempt request
  cases action : guard.rule.action with
  | allow =>
      simp only [principals, action, List.mem_append, or_and_right, exists_or, inRule, inExempt,
        Admits, Rule.Admits]
  | deny =>
      have notAdmitted : (¬ guard.Admits (request.address guard.rule.matcher)) ↔
          (∃ network ∈ guard.rule.networks, request.address guard.rule.matcher ∈ network) ∧
            ¬ ∃ network ∈ guard.exempt, request.address guard.rule.matcher ∈ network := by
        simp [Admits, Rule.Admits, action]
      simp only [notAdmitted]
      cases exempt : guard.exempt with
      | nil => simpa [principals, action, exempt] using inRule
      | cons network networks =>
          have carved := guard.holds_carvedOut guard.rule.networks guard.exempt request
          rw [exempt] at carved
          simp only [principals, action, exempt, List.mem_singleton, exists_eq_left, carved]

/-- The filter of a guard permits the requests whose selected address the guard
admits, under every name. -/
theorem permits_networkFilter (guard : Guard) (name : String) (request : Request) :
    (guard.networkFilter name).permits request = true ↔
      guard.Admits (request.address guard.rule.matcher) := by
  have matched := guard.holds_principals request
  rw [networkFilter, Filter.permits_single]
  cases action : guard.rule.action with
  | allow => simpa only [action] using matched
  | deny =>
      simp only [action] at matched
      rw [matched, Classical.not_not]

/-- Compilation is exact: the filter for the chain inside the gateway and the
filter for a public API endpoint, of which any hosts are given, permit a request
exactly if the guard admits the address that its rule looks at. -/
theorem permits_compiled_iff (guard : Guard) (request : Request) :
    (guard.internal.filter.permits request = true ↔
      guard.Admits (request.address guard.rule.matcher)) ∧
    ∀ host hosts, ∃ fragment, guard.publicApi (host :: hosts) = .ok fragment ∧
      (fragment.filter.permits request = true ↔
        guard.Admits (request.address guard.rule.matcher)) := by
  constructor
  · exact guard.permits_networkFilter _ request
  · intro host hosts
    exact ⟨_, rfl, guard.permits_networkFilter _ request⟩

end Guard

end GatewayAcl
