import GatewayAcl.Json.DecodeError
import GatewayAcl.Net.Network

/-!
# What providers fail at

Why a provider does not say which networks it adds to a shoot.
-/

namespace GatewayAcl

/-- A reason why a provider's networks are not known. -/
inductive ProviderError where
  /-- The infrastructure has reported nothing yet. Asking later may help. -/
  | missingStatus (provider : String)
  | malformedStatus (provider : String) (error : DecodeError)
  | invalidAddress (provider : String) (text : String)
  deriving DecidableEq, Repr

namespace ProviderError

def message : ProviderError → String
  | .missingStatus provider =>
      provider ++ " infrastructure has not reported a provider status yet, retry later"
  | .malformedStatus provider error =>
      "failed to decode " ++ provider ++ " infrastructure status: " ++ error.message
  | .invalidAddress provider text =>
      "invalid " ++ provider ++ " address " ++ Text.quote text ++ ": " ++ Net.malformedAddress

/-- The wording of what caused an error, where something else did. -/
def cause? : ProviderError → Option String
  | .missingStatus _ => none
  | .malformedStatus _ error => some error.message
  | .invalidAddress _ _ => some Net.malformedAddress

end ProviderError

end GatewayAcl
