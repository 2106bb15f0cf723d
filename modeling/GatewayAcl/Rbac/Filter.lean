import GatewayAcl.Members
import GatewayAcl.Rule

/-!
# Role-based access filters

The configuration of the gateway's access filters. A filter holds policies by
name, and a policy lists the principals it applies to. Principals are formulas
over the addresses of a connection and the headers of a request.
-/

namespace GatewayAcl.Rbac

open Net

/-- A range of addresses, as the gateway reads it: an address in text and the
number of leading bits that count. -/
structure CidrRange where
  addressPrefix : String
  prefixLength : UInt32
  deriving DecidableEq, Repr

def CidrRange.ofNetwork (network : Network) : CidrRange :=
  ⟨network.address.print, UInt32.ofNat network.length⟩

/-- A condition on the value of a header. -/
inductive StringMatcher where
  | exact (value : String)
  | startsWith (value : String)
  | contains (value : String)
  deriving DecidableEq, Repr

/-- A condition on a header. -/
structure HeaderMatcher where
  name : String
  value : StringMatcher
  deriving DecidableEq, Repr

/-- Whom a policy applies to. -/
inductive Principal where
  /-- An address of the connection lies in a range. -/
  | address (matcher : Matcher) (range : CidrRange)
  /-- All of the principals match. -/
  | all (ids : List Principal)
  /-- One of the principals matches. -/
  | any (ids : List Principal)
  /-- The principal does not match. -/
  | not (id : Principal)
  /-- A header of the request has a certain value. -/
  | header (matcher : HeaderMatcher)
  deriving Repr

namespace Principal

def inNetwork (matcher : Matcher) (network : Network) : Principal :=
  .address matcher (.ofNetwork network)

def headerContains (name text : String) : Principal :=
  .header ⟨name, .contains text⟩

end Principal

/-- What a policy grants: everything, or nothing. -/
inductive Permission where
  | any (value : Bool)
  deriving DecidableEq, Repr

/-- What is granted, and to whom. -/
structure Policy where
  permissions : List Permission
  principals : List Principal

/-- An action and the policies that call for it. -/
structure Rules where
  action : Action
  policies : Dictionary Policy

structure Config where
  typeUrl : String
  statPrefix : Option String
  rules : Rules

structure Filter where
  name : String
  config : Config

def networkTypeUrl : String :=
  "type.googleapis.com/envoy.extensions.filters.network.rbac.v3.RBAC"

def httpTypeUrl : String :=
  "type.googleapis.com/envoy.extensions.filters.http.rbac.v3.RBAC"

/-- What the statistics of access filters on connections are collected under. -/
def networkStatPrefix : String := "envoyrbac"

/-- The filter with a single policy of its own name that grants everything. -/
def Filter.single (name typeUrl : String) (statPrefix : Option String) (action : Action)
    (principals : List Principal) : Filter :=
  ⟨name, typeUrl, statPrefix, action, .singleton name ⟨[.any true], principals⟩⟩

end GatewayAcl.Rbac
