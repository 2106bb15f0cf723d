import GatewayAcl.Kube.Cluster
import GatewayAcl.Net.Network
import GatewayAcl.Text.Quoted

/-!
# Networks that are always allowed

A rule must not cut a shoot off from its own control plane, nodes or pods. The
networks that have to get through are those of the seed, those that the operator
asks for, and, if the shoot has workers, those of the shoot and of its provider.
-/

namespace GatewayAcl

open Net

/-- The two networks that a cluster may have. -/
inductive NetworkRole where
  | nodes
  | pods
  deriving DecidableEq, Repr

def NetworkRole.name : NetworkRole → String
  | .nodes => "nodes"
  | .pods => "pods"

/-- A text that should be a cluster's network and is none. -/
structure NetworkError where
  role : NetworkRole
  text : String
  deriving DecidableEq, Repr

def NetworkError.message (error : NetworkError) : String :=
  "invalid " ++ error.role.name ++ " network " ++ Text.quote error.text ++ ": " ++
    malformedAddress

/-- The networks of a cluster's nodes and pods. -/
structure ClusterNetworks where
  nodes : Option Network := none
  pods : Option Network := none
  deriving DecidableEq, Repr

namespace ClusterNetworks

/-- The network that a text spells, if there is a text. -/
def parseOptional (role : NetworkRole) : Option String → Except NetworkError (Option Network)
  | none => .ok none
  | some text =>
      match Network.parse? text with
      | some network => .ok (some network)
      | none => .error ⟨role, text⟩

/-- The networks of a cluster, from their texts. -/
def parse (networks : Kube.NetworksText) : Except NetworkError ClusterNetworks := do
  let nodes ← parseOptional .nodes networks.nodes
  let pods ← parseOptional .pods networks.pods
  .ok ⟨nodes, pods⟩

/-- The networks as a list, nodes first. -/
def toList (networks : ClusterNetworks) : List Network :=
  networks.nodes.toList ++ networks.pods.toList

end ClusterNetworks

inductive ShootNetworks where
  /-- Without workers there are no nodes, no pods and no infrastructure. -/
  | workerless
  /-- The shoot's own networks, and what its provider adds. -/
  | workers (own : ClusterNetworks) (provider : List Network)
  deriving DecidableEq, Repr

/-- The networks as a list, those of the provider last. -/
def ShootNetworks.toList : ShootNetworks → List Network
  | .workerless => []
  | .workers own provider => own.toList ++ provider

/-- The networks that are always allowed, in a fixed order and with duplicates:
the seed's, the operator's, and the shoot's. -/
def alwaysAllowed (seed : ClusterNetworks) (shoot : ShootNetworks)
    (operator : List Network) : List Network :=
  seed.toList ++ operator ++ shoot.toList

end GatewayAcl
