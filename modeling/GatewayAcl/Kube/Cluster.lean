import GatewayAcl.Kube.ObjectMeta

/-!
# Clusters

What a cluster object says about a shoot and the seed that hosts it, as far as
access rules need it. Everything else in the object is ignored.
-/

namespace GatewayAcl.Kube

/-- The networks of nodes and pods, as text. -/
structure NetworksText where
  nodes : Option String := none
  pods : Option String := none
  deriving DecidableEq, Repr

namespace NetworksText

def shape : Shape NetworksText where
  name := "Networks"
  strictness := .lenient
  blank := {}
  fields := [
    .optional "nodes" .string fun networks value => { networks with nodes := value },
    .optional "pods" .string fun networks value => { networks with pods := value }]

def encode (networks : NetworksText) : Json :=
  .record <|
    Json.optionalMember "nodes" .string networks.nodes ++
    Json.optionalMember "pods" .string networks.pods

end NetworksText

/-- The part of a seed that is read. -/
structure SeedSpec where
  networks : NetworksText := {}

namespace SeedSpec

def shape : Shape SeedSpec where
  name := "SeedSpec"
  strictness := .lenient
  blank := {}
  fields := [
    .defaulted "networks" NetworksText.shape.decoder fun spec value =>
      { spec with networks := value }]

def encode (spec : SeedSpec) : Json :=
  .record [("networks", spec.networks.encode)]

end SeedSpec

/-- A seed: the cluster that hosts a shoot's control plane. -/
structure Seed where
  metadata : ObjectMeta := {}
  spec : SeedSpec := {}

namespace Seed

def shape : Shape Seed where
  name := "Seed"
  strictness := .lenient
  blank := {}
  fields := [
    .defaulted "metadata" ObjectMeta.shape.decoder fun seed value =>
      { seed with metadata := value },
    .defaulted "spec" SeedSpec.shape.decoder fun seed value => { seed with spec := value }]

def encode (seed : Seed) : Json :=
  .record [("metadata", seed.metadata.encode), ("spec", seed.spec.encode)]

end Seed

/-- The infrastructure that a shoot asks for. What a pool of workers looks like
does not matter here, only that there is one. -/
structure ShootProvider where
  providerType : String := ""
  workers : List Json := []

namespace ShootProvider

def shape : Shape ShootProvider where
  name := "ShootProvider"
  strictness := .lenient
  blank := {}
  fields := [
    .defaulted "type" .string fun provider value => { provider with providerType := value },
    .defaulted "workers" (.list .json) fun provider value => { provider with workers := value }]

def encode (provider : ShootProvider) : Json :=
  .record [("type", .string provider.providerType), ("workers", .array provider.workers)]

end ShootProvider

/-- The part of a shoot that is read. -/
structure ShootSpec where
  networking : Option NetworksText := none
  provider : ShootProvider := {}

namespace ShootSpec

def shape : Shape ShootSpec where
  name := "ShootSpec"
  strictness := .lenient
  blank := {}
  fields := [
    .optional "networking" NetworksText.shape.decoder fun spec value =>
      { spec with networking := value },
    .defaulted "provider" ShootProvider.shape.decoder fun spec value =>
      { spec with provider := value }]

def encode (spec : ShootSpec) : Json :=
  .record <|
    Json.optionalMember "networking" NetworksText.encode spec.networking ++
    [("provider", spec.provider.encode)]

end ShootSpec

/-- A shoot: the cluster that a user works with. -/
structure Shoot where
  metadata : ObjectMeta := {}
  spec : ShootSpec := {}

namespace Shoot

def shape : Shape Shoot where
  name := "Shoot"
  strictness := .lenient
  blank := {}
  fields := [
    .defaulted "metadata" ObjectMeta.shape.decoder fun shoot value =>
      { shoot with metadata := value },
    .defaulted "spec" ShootSpec.shape.decoder fun shoot value => { shoot with spec := value }]

def encode (shoot : Shoot) : Json :=
  .record [("metadata", shoot.metadata.encode), ("spec", shoot.spec.encode)]

/-- The shoot has no workers, and so no networks of its own. -/
def isWorkerless (shoot : Shoot) : Bool :=
  shoot.spec.provider.workers.isEmpty

def name? (shoot : Shoot) : Option String :=
  shoot.metadata.name

end Shoot

/-- The part of a cluster object that is read. -/
structure ClusterSpec where
  seed : Seed := {}
  shoot : Shoot := {}

namespace ClusterSpec

def shape : Shape ClusterSpec where
  name := "ClusterSpec"
  strictness := .lenient
  blank := {}
  fields := [
    .defaulted "seed" Seed.shape.decoder fun spec value => { spec with seed := value },
    .defaulted "shoot" Shoot.shape.decoder fun spec value => { spec with shoot := value }]

def encode (spec : ClusterSpec) : Json :=
  .record [("seed", spec.seed.encode), ("shoot", spec.shoot.encode)]

end ClusterSpec

/-- A cluster object. -/
structure Cluster where
  metadata : ObjectMeta
  spec : ClusterSpec

namespace Cluster

def shape : Shape Cluster where
  name := "Cluster"
  strictness := .lenient
  blank := ⟨{}, {}⟩
  fields := [
    .required "metadata" ObjectMeta.shape.decoder fun object value =>
      { object with metadata := value },
    .required "spec" ClusterSpec.shape.decoder fun object value => { object with spec := value }]

end Cluster

end GatewayAcl.Kube
