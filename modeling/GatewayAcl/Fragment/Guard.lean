import GatewayAcl.Fragment.Basic

/-!
# Guards

A guard is a rule with the networks that are exempt from it: those that have to
get through whatever the rule says, such as a shoot's own nodes. This module
compiles guards into the fragments that enforce them. What is compiled depends on
the guard alone, so the same guard always yields the same fragment.
-/

namespace GatewayAcl

open Net Rbac

/-- A rule and the networks that are always allowed. -/
structure Guard where
  rule : Rule
  exempt : List Network

/-- The name of the filter that passes connections on as they are. -/
def tcpProxyFilter : String := "envoy.filters.network.tcp_proxy"

/-- The name of the filter that takes requests out of connections. -/
def connectionManagerFilter : String := "envoy.filters.network.http_connection_manager"

/-- The name of the filter that passes requests on. -/
def routerFilter : String := "envoy.filters.http.router"

/-- The port of the listener that all tunnels share. -/
def vpnPort : UInt32 := 8132

/-- The header that says which shoot a tunnel leads to. -/
def vpnHeader : String := "reversed-vpn"

/-- The name of access filters in front of public API endpoints. -/
def apiFilter : String := "acl-api"

/-- The name of the access filter that several tunnels share. -/
def vpnFilter : String := "acl-vpn"

/-- An API endpoint without a host cannot be selected. -/
inductive EndpointError where
  | noHosts
  deriving DecidableEq, Repr

def EndpointError.message : EndpointError → String
  | .noHosts =>
      "no hosts given: at least one host is required to match the API server filter chain"

namespace Guard

/-- The principals of some networks, by the address that the rule looks at. -/
def inNetworks (guard : Guard) (networks : List Network) : List Principal :=
  networks.map (.inNetwork guard.rule.matcher)

/-- The principals that the rule's action applies to. A rule that allows also
allows the exempt networks. From what a rule denies they are taken out, which
needs one nested principal; without exempt networks the list stays flat. -/
def principals (guard : Guard) : List Principal :=
  match guard.rule.action, guard.exempt with
  | .allow, exempt => guard.inNetworks guard.rule.networks ++ guard.inNetworks exempt
  | .deny, [] => guard.inNetworks guard.rule.networks
  | .deny, exempt =>
      [.all [.any (guard.inNetworks guard.rule.networks), .not (.any (guard.inNetworks exempt))]]

/-- The filter for connections that enforces the guard under a name. -/
def networkFilter (guard : Guard) (name : String) : Filter :=
  .single name networkTypeUrl (some networkStatPrefix) guard.rule.action guard.principals

/-- The fragment for the chain inside the gateway. -/
def internal (guard : Guard) : Fragment :=
  .internal (guard.networkFilter ("acl-internal-" ++ guard.rule.matcher.name))

/-- The fragment for a public API endpoint. Its first host selects the chain. -/
def publicApi (guard : Guard) (hosts : List String) : Except EndpointError Fragment :=
  match hosts with
  | [] => .error .noHosts
  | host :: _ =>
      .ok (.publicApi ⟨.network, ⟨none, some host, tcpProxyFilter, none⟩,
        guard.networkFilter apiFilter⟩)

/-- What has to be denied of the traffic through the tunnel of one shoot. The
condition on the header keeps the tunnels of other shoots out of it. -/
def tunnelPrincipal (guard : Guard) (shootId : String) : Principal :=
  let denied :=
    match guard.rule.action with
    | .allow => .not (.any guard.principals)
    | .deny => .any guard.principals
  .all [denied, .headerContains vpnHeader ("." ++ shootId ++ ".")]

end Guard

/-- Denies principals on the listener that all tunnels share, under a name. -/
def tunnelPatch (name : String) (principals : List Principal) : GatewayPatch where
  layer := .http
  listener := ⟨some vpnPort, none, connectionManagerFilter, some routerFilter⟩
  filter := .single name httpTypeUrl none .deny principals

/-- The fragment for the tunnel of one shoot. -/
def Guard.vpn (guard : Guard) (shootId : String) : Fragment :=
  .vpn (tunnelPatch (vpnFilter ++ "-" ++ shootId) [guard.tunnelPrincipal shootId])

/-- A shoot whose tunnel is guarded together with others. -/
structure Tenant where
  shootId : String
  guard : Guard

/-- One fragment for the tunnels of several shoots. -/
def Tenant.legacyVpn (tenants : List Tenant) : Fragment :=
  .legacyVpn (tunnelPatch vpnFilter
    (tenants.map fun tenant => tenant.guard.tunnelPrincipal tenant.shootId))

end GatewayAcl
