import GatewayAcl.Net.Network
import GatewayAcl.Rule
import GatewayAcl.Time.Duration

/-!
# Settings

What an operator decides about the handling of requests.
-/

namespace GatewayAcl.Admission

structure Settings where
  /-- Networks that every shoot has to allow. -/
  alwaysAllowed : List Net.Network
  /-- The number of CIDRs that a rule may list. -/
  cidrLimit : Nat
  /-- The bound on the time of each lookup. -/
  lookupTimeout : Duration
  deriving DecidableEq, Repr

/-- The bound on the time of a lookup unless an operator says otherwise. -/
def defaultLookupTimeout : Duration := ⟨5000⟩

/-- The settings of an operator who decides nothing. -/
def Settings.default : Settings := ⟨[], defaultCidrLimit, defaultLookupTimeout⟩

end GatewayAcl.Admission
