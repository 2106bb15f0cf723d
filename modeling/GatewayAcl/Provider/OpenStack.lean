import GatewayAcl.Json.Shape
import GatewayAcl.Provider.Error

/-!
# OpenStack

The nodes of a shoot on OpenStack reach the outside through a router, so their
traffic comes from the router's address, which is in none of the shoot's
networks. The provider reports that address in the infrastructure's status.
-/

namespace GatewayAcl.OpenStack

open Net

def providerName : String := "openstack"

/-- The shape of a router, of which the address matters. -/
def routerShape : Shape String where
  name := "Router"
  strictness := .lenient
  blank := ""
  fields := [.required "ip" .string fun _ value => value]

/-- The shape of the networks of an infrastructure, of which the router matters. -/
def networksShape : Shape String where
  name := "Networks"
  strictness := .lenient
  blank := ""
  fields := [.required "router" routerShape.decoder fun _ value => value]

/-- The shape of a status, of which the networks matter. -/
def statusShape : Shape String where
  name := "Status"
  strictness := .lenient
  blank := ""
  fields := [.required "networks" networksShape.decoder fun _ value => value]

/-- The network of the one host that a text is the address of. -/
def hostNetwork (text : String) : Except ProviderError Network :=
  match Address.parse? .strict text with
  | some address => .ok (.host address)
  | none => .error (.invalidAddress providerName text)

/-- The networks that a status adds: the one host that is the router. -/
def allowedNetworks (status : Json) : Except ProviderError (List Network) := do
  let text ← (statusShape.decoder.ofJson status).mapError (.malformedStatus providerName)
  let network ← hostNetwork text
  .ok [network]

end GatewayAcl.OpenStack
