import GatewayAcl.Admission.Inquiry
import GatewayAcl.Admission.Request
import GatewayAcl.Admission.RuleRequest
import GatewayAcl.Admission.Settings
import GatewayAcl.Fragment.Guard
import GatewayAcl.Fragment.Wire
import GatewayAcl.Kube.EnvoyFilter
import GatewayAcl.Provider.Registry

/-!
# Mutator

Puts a shoot's access filter into the gateway filter object of the shoot when that
object is admitted. The filter chain that ends in the filter which passes
connections on is given two filters, the access filter and that one, whatever it
had before. So doing it again to an object that has been changed in this way leads
to the same filter chain.

Whatever goes wrong on the way is a rejection. An object is admitted as it is only
if it does not belong to a shoot or the shoot asks for no rule.
-/

namespace GatewayAcl.Admission

open Kube Net

/-- What is needed to compile the rules of shoots. -/
structure Mutator where
  lookup : Lookup
  registry : Registry
  alwaysAllowed : List Network
  timeout : Duration

namespace Mutator

def ofSettings (lookup : Lookup) (registry : Registry) (settings : Settings) : Mutator :=
  ⟨lookup, registry, settings.alwaysAllowed, settings.lookupTimeout⟩

/-- How the names of objects that belong to a shoot begin. The whole name is that
of the shoot's namespace. -/
def shootMark : String := "shoot--"

/-- An object of the name belongs to a shoot. -/
def belongsToShoot (name : String) : Bool :=
  shootMark.toList.isPrefixOf name.toList

def findExtension (mutator : Mutator) (namespaceName : String) : Inquiry (Option Extension) :=
  .ask mutator.timeout (.extension namespaceName Extension.aclName)
    (mutator.lookup.extension namespaceName Extension.aclName)

def findCluster (mutator : Mutator) (namespaceName : String) : Inquiry Cluster :=
  .ask mutator.timeout (.cluster namespaceName) (mutator.lookup.cluster namespaceName)

def findInfrastructure (mutator : Mutator) (namespaceName name : String) :
    Inquiry Infrastructure :=
  .ask mutator.timeout (.infrastructure namespaceName name)
    (mutator.lookup.infrastructure namespaceName name)

/-- The networks that a shoot has by itself. -/
def ownNetworks (shoot : Shoot) : Except Rejection ClusterNetworks :=
  match shoot.spec.networking with
  | none => .ok {}
  | some networks => (ClusterNetworks.parse networks).mapError .shootNetwork

/-- The name of a shoot, which has to have one. -/
def shootName (namespaceName : String) (shoot : Shoot) : Except Rejection String :=
  match shoot.name? with
  | none => .error (.unnamedShoot namespaceName)
  | some name => .ok name

/-- The networks that a provider adds, from what its infrastructure reports. -/
def providerNetworks (mutator : Mutator) (infrastructure : Infrastructure) :
    Except Rejection (List Network) :=
  (mutator.registry.allowedNetworks infrastructure.spec.providerType
    infrastructure.providerStatus?).mapError .provider

def shootNetworks (mutator : Mutator) (namespaceName : String) (shoot : Shoot) :
    Inquiry ShootNetworks :=
  if shoot.isWorkerless then pure .workerless
  else do
    let own ← .ofResult (ownNetworks shoot)
    let name ← .ofResult (shootName namespaceName shoot)
    let infrastructure ← mutator.findInfrastructure namespaceName name
    let provider ← .ofResult (mutator.providerNetworks infrastructure)
    pure (.workers own provider)

/-- The networks that a shoot always allows, whatever its rule says. -/
def exemptNetworks (mutator : Mutator) (namespaceName : String) : Inquiry (List Network) := do
  let cluster ← mutator.findCluster namespaceName
  let seed ← .ofResult
    ((ClusterNetworks.parse cluster.spec.seed.spec.networks).mapError .seedNetwork)
  let shoot ← mutator.shootNetworks namespaceName cluster.spec.shoot
  pure (GatewayAcl.alwaysAllowed seed shoot mutator.alwaysAllowed)

/-- The replacement of the filter chain that passes connections on: the access
filter of a guard, and behind it the filter that passes them on. -/
def splice (spec : EnvoyFilterSpec) (name : String) (guard : Guard) : Except Rejection Patch :=
  match spec.findFilter? tcpProxyFilter with
  | none => .error (.missingFilter tcpProxyFilter name)
  | some location =>
      .ok ⟨[⟨location.pointer, .array [guard.internal.encode, location.filter]⟩]⟩

/-- The patch for an object that belongs to a shoot, if the shoot asks for a
rule. -/
def guardShoot (mutator : Mutator) (namespaceName : String) (spec : EnvoyFilterSpec) :
    Inquiry (Option Patch) := do
  match ← mutator.findExtension namespaceName with
  | none => pure none
  | some extension =>
      match ← Inquiry.ofResult extension.rule? with
      | none => pure none
      | some rule => do
          let exempt ← mutator.exemptNetworks namespaceName
          let patch ← .ofResult (splice spec namespaceName ⟨rule, exempt⟩)
          pure (some patch)

/-- The patch that a request is admitted with, if any. -/
def mutate (mutator : Mutator) (request : Request) : Inquiry (Option Patch) :=
  if request.operation = .delete then pure none
  else do
    let (object, spec) ← .ofResult (request.readSpec EnvoyFilterSpec.shape.decoder)
    let name := object.metadata.anyName
    if belongsToShoot name then mutator.guardShoot name spec else pure none

end Mutator

end GatewayAcl.Admission
