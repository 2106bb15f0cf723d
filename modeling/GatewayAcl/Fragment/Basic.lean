import GatewayAcl.Rbac.Filter

/-!
# Fragments

A fragment is an access filter together with where the gateway has to put it.
There is one kind of fragment for each kind of filter chain that a shoot's
traffic passes through. Internal fragments are put into a chain by whoever owns
it, so they are bare filters; the others are patches to the gateway's own
configuration, which select a chain by themselves.
-/

namespace GatewayAcl

/-- Whether filters look at connections or at requests. -/
inductive Layer where
  | network
  | http
  deriving DecidableEq, Repr

/-- Selects a filter, and within it a filter of the requests it handles. -/
structure FilterSelector where
  name : String
  subFilter : Option String
  deriving DecidableEq, Repr

/-- Selects a filter chain by the server name that clients ask for and by one of
its filters. -/
structure ChainSelector where
  sni : Option String
  filter : FilterSelector
  deriving DecidableEq, Repr

/-- Selects a filter chain of a listener, which may be given by its port. -/
structure ListenerSelector where
  port : Option UInt32
  chain : ChainSelector
  deriving DecidableEq, Repr

/-- Puts an access filter in front of a selected filter of the gateway. -/
structure GatewayPatch where
  layer : Layer
  listener : ListenerSelector
  filter : Rbac.Filter

/-- An access filter for one kind of filter chain. -/
inductive Fragment where
  /-- For the chain inside the gateway that leads to the shoot. -/
  | internal (filter : Rbac.Filter)
  /-- For the chain of the shoot's public API endpoint. -/
  | publicApi (patch : GatewayPatch)
  /-- For the tunnel of one shoot on the listener that all tunnels share. -/
  | vpn (patch : GatewayPatch)
  /-- For the tunnels of several shoots on that listener. -/
  | legacyVpn (patch : GatewayPatch)

namespace Fragment

inductive Kind where
  | internal
  | publicApi
  | vpn
  | legacyVpn
  deriving DecidableEq, Repr

def kind : Fragment → Kind
  | .internal _ => .internal
  | .publicApi _ => .publicApi
  | .vpn _ => .vpn
  | .legacyVpn _ => .legacyVpn

def filter : Fragment → Rbac.Filter
  | .internal filter => filter
  | .publicApi patch => patch.filter
  | .vpn patch => patch.filter
  | .legacyVpn patch => patch.filter

end Fragment

end GatewayAcl
