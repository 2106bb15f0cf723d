import GatewayAcl.Proofs.Admission.Inquiries

/-!
# The networks that are exempt from a shoot's rule

Which networks a shoot always allows, by where they come from, and when they can be
told at all.  The mutator collects exactly these, and whatever keeps it from doing
so is not the fault of the submitted rule.
-/

namespace GatewayAcl

open Kube Net

/-- The texts of a cluster's networks, as far as it has any. -/
def Kube.NetworksText.texts (networks : NetworksText) : List String :=
  networks.nodes.toList ++ networks.pods.toList

/-- The texts of a shoot's networks, as far as it has any. -/
def Kube.Shoot.networkTexts (shoot : Shoot) : List String :=
  (shoot.spec.networking.map NetworksText.texts).getD []

def Kube.Shoot.HasWorkers (shoot : Shoot) : Prop :=
  shoot.spec.provider.workers ≠ []

theorem Kube.Shoot.isWorkerless_iff {shoot : Shoot} :
    shoot.isWorkerless = true ↔ ¬ shoot.HasWorkers := by
  simp [isWorkerless, HasWorkers]

/-- A text spells a network. -/
def Spells (text : String) (network : Network) : Prop :=
  Network.parse? text = some network

namespace ClusterNetworks

theorem parseOptional_eq_ok_iff {role : NetworkRole} {text? : Option String}
    {network? : Option Network} :
    parseOptional role text? = .ok network? ↔
      text?.map Network.parse? = network?.map some := by
  unfold parseOptional
  cases text? with
  | none => cases network? <;> simp
  | some text =>
      cases read : Network.parse? text with
      | none => cases network? <;> simp [read]
      | some network => cases network? <;> simp [read]

/-- A pair of networks is known if each of the two is, and then they are what the
texts spell. -/
theorem parse_eq_ok_iff {networks : NetworksText} {parsed : ClusterNetworks} :
    parse networks = .ok parsed ↔
      networks.nodes.map Network.parse? = parsed.nodes.map some ∧
        networks.pods.map Network.parse? = parsed.pods.map some := by
  simp only [parse, except_bind_eq_ok_iff, parseOptional_eq_ok_iff]
  constructor
  · rintro ⟨nodes, readNodes, pods, readPods, same⟩
    cases same
    exact ⟨readNodes, readPods⟩
  · rintro ⟨readNodes, readPods⟩
    exact ⟨parsed.nodes, readNodes, parsed.pods, readPods, rfl⟩

/-- A pair of networks is known exactly if every text that there is spells one. -/
theorem exists_parse_iff {networks : NetworksText} :
    (∃ parsed, parse networks = .ok parsed) ↔
      ∀ text ∈ networks.texts, ∃ network, Spells text network := by
  obtain ⟨nodes, pods⟩ := networks
  simp only [parse_eq_ok_iff, NetworksText.texts, Spells, List.mem_append, Option.mem_toList]
  constructor
  · rintro ⟨⟨nodes', pods'⟩, readNodes, readPods⟩ text (isNodes | isPods)
    · cases isNodes
      obtain ⟨network, _, read⟩ := Option.map_eq_some_iff.mp readNodes.symm
      exact ⟨network, read.symm⟩
    · cases isPods
      obtain ⟨network, _, read⟩ := Option.map_eq_some_iff.mp readPods.symm
      exact ⟨network, read.symm⟩
  · intro spelled
    refine ⟨⟨nodes.bind Network.parse?, pods.bind Network.parse?⟩, ?_, ?_⟩
    · cases nodes with
      | none => rfl
      | some text =>
          obtain ⟨network, read⟩ := spelled text (.inl rfl)
          simp [read]
    · cases pods with
      | none => rfl
      | some text =>
          obtain ⟨network, read⟩ := spelled text (.inr rfl)
          simp [read]

/-- What an optional text spells is the network that it is known as. -/
theorem eq_some_iff_spells {text? : Option String} {network? : Option Network}
    (read : text?.map Network.parse? = network?.map some) {network : Network} :
    network? = some network ↔ ∃ text, text? = some text ∧ Spells text network := by
  cases text? with
  | none =>
      cases network? with
      | none => simp
      | some other => cases read
  | some text =>
      cases network? with
      | none => cases read
      | some other =>
          have spells : Network.parse? text = some other := Option.some.inj read
          simp [Spells, spells]

theorem mem_toList_iff {networks : NetworksText} {parsed : ClusterNetworks}
    (read : parse networks = .ok parsed) {network : Network} :
    network ∈ parsed.toList ↔ ∃ text ∈ networks.texts, Spells text network := by
  obtain ⟨readNodes, readPods⟩ := parse_eq_ok_iff.mp read
  simp only [toList, NetworksText.texts, List.mem_append, Option.mem_toList, or_and_right,
    exists_or]
  rw [eq_some_iff_spells readNodes, eq_some_iff_spells readPods]

end ClusterNetworks

namespace Admission

namespace Mutator

variable (mutator : Mutator) (namespaceName : String)

/-- The infrastructure of a shoot is known, and its provider adds networks to the
shoot. -/
def ProviderAdds (shoot : Shoot) (networks : List Network) : Prop :=
  ∃ name infrastructure, shoot.metadata.name = some name ∧
    (mutator.lookup.infrastructure namespaceName name).Yields mutator.timeout infrastructure ∧
    mutator.registry.allowedNetworks infrastructure.spec.providerType
      infrastructure.providerStatus? = .ok networks

/-- A network is exempt from the rule of a cluster's shoot. -/
inductive Exempt (cluster : Cluster) : Network → Prop where
  | ofSeed {text : String} {network : Network} :
      text ∈ cluster.spec.seed.spec.networks.texts → Spells text network →
        Exempt cluster network
  | ofOperator {network : Network} : network ∈ mutator.alwaysAllowed → Exempt cluster network
  | ofShoot {text : String} {network : Network} : cluster.spec.shoot.HasWorkers →
      text ∈ cluster.spec.shoot.networkTexts → Spells text network → Exempt cluster network
  | ofProvider {networks : List Network} {network : Network} :
      cluster.spec.shoot.HasWorkers →
      mutator.ProviderAdds namespaceName cluster.spec.shoot networks → network ∈ networks →
        Exempt cluster network

/-- The networks that are exempt from the rule of a cluster's shoot can be told. -/
structure Prepared (cluster : Cluster) : Prop where
  seed : ∀ text ∈ cluster.spec.seed.spec.networks.texts, ∃ network, Spells text network
  shoot : cluster.spec.shoot.HasWorkers →
    ∀ text ∈ cluster.spec.shoot.networkTexts, ∃ network, Spells text network
  provider : cluster.spec.shoot.HasWorkers →
    ∃ networks, mutator.ProviderAdds namespaceName cluster.spec.shoot networks

variable {mutator namespaceName}

theorem exists_ownNetworks_iff {shoot : Shoot} :
    (∃ own, ownNetworks shoot = .ok own) ↔
      ∀ text ∈ shoot.networkTexts, ∃ network, Spells text network := by
  unfold ownNetworks Shoot.networkTexts
  cases shoot.spec.networking with
  | none => simp
  | some networks =>
      simp only [except_mapError_eq_ok_iff]
      exact ClusterNetworks.exists_parse_iff

theorem mem_ownNetworks_iff {shoot : Shoot} {own : ClusterNetworks}
    (known : ownNetworks shoot = .ok own) {network : Network} :
    network ∈ own.toList ↔ ∃ text ∈ shoot.networkTexts, Spells text network := by
  unfold ownNetworks at known
  unfold Shoot.networkTexts
  cases networking : shoot.spec.networking with
  | none =>
      rw [networking] at known
      cases known
      simp [ClusterNetworks.toList]
  | some networks =>
      simp only [networking, except_mapError_eq_ok_iff] at known
      exact ClusterNetworks.mem_toList_iff known

theorem shootName_eq_ok_iff {shoot : Shoot} {name : String} :
    shootName namespaceName shoot = .ok name ↔ shoot.metadata.name = some name := by
  unfold shootName Shoot.name?
  cases shoot.metadata.name <;> simp

/-- The networks of a shoot with workers are its own and those of its provider. -/
theorem result_shootNetworks_eq_ok_iff {shoot : Shoot} {networks : ShootNetworks} :
    (mutator.shootNetworks namespaceName shoot).result = .ok networks ↔
      (¬ shoot.HasWorkers ∧ networks = .workerless) ∨
        (shoot.HasWorkers ∧ ∃ own provider, ownNetworks shoot = .ok own ∧
          mutator.ProviderAdds namespaceName shoot provider ∧
          networks = .workers own provider) := by
  unfold shootNetworks
  by_cases workers : shoot.HasWorkers
  · rw [if_neg (mt Shoot.isWorkerless_iff.mp (not_not_intro workers))]
    simp only [Inquiry.result_bind, Inquiry.result_ofResult, Inquiry.result_pure,
      except_bind_eq_ok_iff, findInfrastructure, result_ask_eq_ok_iff, shootName_eq_ok_iff,
      providerNetworks, except_mapError_eq_ok_iff]
    constructor
    · rintro ⟨own, known, name, named, infrastructure, yields, provider, adds, same⟩
      cases same
      exact .inr ⟨workers, own, provider, known, ⟨name, infrastructure, named, yields, adds⟩, rfl⟩
    · rintro (⟨workerless, _⟩ | ⟨_, own, provider, known, adds, rfl⟩)
      · exact absurd workers workerless
      · obtain ⟨name, infrastructure, named, yields, adds⟩ := adds
        exact ⟨own, known, name, named, infrastructure, yields, provider, adds, rfl⟩
  · rw [if_pos (Shoot.isWorkerless_iff.mpr workers)]
    simp [workers, eq_comm]

/-- The exempt networks are those of the seed, the operator and the shoot. -/
theorem result_exemptNetworks_eq_ok_iff {exempt : List Network} :
    (mutator.exemptNetworks namespaceName).result = .ok exempt ↔
      ∃ cluster seed shoot,
        (mutator.lookup.cluster namespaceName).Yields mutator.timeout cluster ∧
        ClusterNetworks.parse cluster.spec.seed.spec.networks = .ok seed ∧
        (mutator.shootNetworks namespaceName cluster.spec.shoot).result = .ok shoot ∧
        exempt = GatewayAcl.alwaysAllowed seed shoot mutator.alwaysAllowed := by
  simp only [exemptNetworks, Inquiry.result_bind, Inquiry.result_ofResult, Inquiry.result_pure,
    except_bind_eq_ok_iff, findCluster, result_ask_eq_ok_iff, except_mapError_eq_ok_iff]
  constructor
  · rintro ⟨cluster, yields, seed, read, shoot, known, same⟩
    cases same
    exact ⟨cluster, seed, shoot, yields, read, known, rfl⟩
  · rintro ⟨cluster, seed, shoot, yields, read, known, rfl⟩
    exact ⟨cluster, yields, seed, read, shoot, known, rfl⟩

/-- The exempt networks are known exactly if the cluster is, and they can be told from
it. -/
theorem exists_exemptNetworks_iff :
    (∃ exempt, (mutator.exemptNetworks namespaceName).result = .ok exempt) ↔
      ∃ cluster, (mutator.lookup.cluster namespaceName).Yields mutator.timeout cluster ∧
        mutator.Prepared namespaceName cluster := by
  simp only [result_exemptNetworks_eq_ok_iff, result_shootNetworks_eq_ok_iff]
  constructor
  · rintro ⟨exempt, cluster, seed, shoot, yields, read, known, rfl⟩
    refine ⟨cluster, yields, ClusterNetworks.exists_parse_iff.mp ⟨seed, read⟩, ?_, ?_⟩
    · intro workers
      rcases known with ⟨workerless, _⟩ | ⟨_, own, provider, known, _⟩
      · exact absurd workers workerless
      · exact exists_ownNetworks_iff.mp ⟨own, known⟩
    · intro workers
      rcases known with ⟨workerless, _⟩ | ⟨_, own, provider, _, adds, _⟩
      · exact absurd workers workerless
      · exact ⟨provider, adds⟩
  · rintro ⟨cluster, yields, prepared⟩
    obtain ⟨seed, read⟩ := ClusterNetworks.exists_parse_iff.mpr prepared.seed
    by_cases workers : cluster.spec.shoot.HasWorkers
    · obtain ⟨own, known⟩ := exists_ownNetworks_iff.mpr (prepared.shoot workers)
      obtain ⟨provider, adds⟩ := prepared.provider workers
      exact ⟨_, cluster, seed, .workers own provider, yields, read,
        .inr ⟨workers, own, provider, known, adds, rfl⟩, rfl⟩
    · exact ⟨_, cluster, seed, .workerless, yields, read, .inl ⟨workers, rfl⟩, rfl⟩

theorem ProviderAdds.unique {shoot : Shoot} {left right : List Network}
    (addsLeft : mutator.ProviderAdds namespaceName shoot left)
    (addsRight : mutator.ProviderAdds namespaceName shoot right) : left = right := by
  obtain ⟨name, infrastructure, named, yields, adds⟩ := addsLeft
  obtain ⟨name', infrastructure', named', yields', adds'⟩ := addsRight
  cases named.symm.trans named'
  cases yields.unique yields'
  exact Except.ok.inj (adds.symm.trans adds')

/-- The exempt networks are collected without a loss and without an addition. -/
theorem mem_exemptNetworks_iff {cluster : Cluster} {exempt : List Network}
    (yields : (mutator.lookup.cluster namespaceName).Yields mutator.timeout cluster)
    (collected : (mutator.exemptNetworks namespaceName).result = .ok exempt)
    {network : Network} :
    network ∈ exempt ↔ mutator.Exempt namespaceName cluster network := by
  obtain ⟨_, seed, shoot, yields', read, known, rfl⟩ :=
    result_exemptNetworks_eq_ok_iff.mp collected
  cases yields.unique yields'
  rw [GatewayAcl.alwaysAllowed, List.mem_append, List.mem_append,
    ClusterNetworks.mem_toList_iff read]
  constructor
  · rintro ((⟨text, given, spells⟩ | byOperator) | byShoot)
    · exact .ofSeed given spells
    · exact .ofOperator byOperator
    · rcases result_shootNetworks_eq_ok_iff.mp known with
        ⟨_, rfl⟩ | ⟨workers, own, provider, knownOwn, adds, rfl⟩
      · cases byShoot
      · rcases List.mem_append.mp byShoot with isOwn | isProvider
        · obtain ⟨text, given, spells⟩ := (mem_ownNetworks_iff knownOwn).mp isOwn
          exact .ofShoot workers given spells
        · exact .ofProvider workers adds isProvider
  · intro isExempt
    cases isExempt with
    | ofSeed given spells => exact .inl (.inl ⟨_, given, spells⟩)
    | ofOperator byOperator => exact .inl (.inr byOperator)
    | ofShoot workers given spells =>
        rcases result_shootNetworks_eq_ok_iff.mp known with
          ⟨workerless, _⟩ | ⟨_, own, provider, knownOwn, _, rfl⟩
        · exact absurd workers workerless
        · have isOwn := (mem_ownNetworks_iff knownOwn).mpr ⟨_, given, spells⟩
          exact .inr (List.mem_append_left provider isOwn)
    | ofProvider workers adds isProvider =>
        rcases result_shootNetworks_eq_ok_iff.mp known with
          ⟨workerless, _⟩ | ⟨_, own, provider, _, adds', rfl⟩
        · exact absurd workers workerless
        · cases adds.unique adds'
          exact .inr (List.mem_append_right own.toList isProvider)

end Mutator

end Admission

end GatewayAcl
