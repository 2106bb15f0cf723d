import GatewayAcl.AlwaysAllowed
import GatewayAcl.Lookup.Basic
import GatewayAcl.Provider.Error
import GatewayAcl.Rule

/-!
# Rejections

Why a request is denied. The code tells the submitter whether it is the submitted
rule that is wrong, so that submitting it again cannot help, or something that it
depends on.
-/

namespace GatewayAcl.Admission

/-- A reason to deny a request. -/
inductive Rejection where
  | missingObject
  | missingSpec
  | malformedSpec (error : DecodeError)
  | malformedConfig (error : DecodeError)
  | tooManyCidrs (error : TooManyCidrs)
  | invalidRule (error : RuleError)
  | lookup (error : LookupError)
  | seedNetwork (error : NetworkError)
  | shootNetwork (error : NetworkError)
  | unnamedShoot (namespaceName : String)
  | provider (error : ProviderError)
  /-- The object lacks the filter that the access filter goes in front of. -/
  | missingFilter (filterName objectName : String)
  deriving DecidableEq, Repr

namespace Rejection

/-- The code of a rejection: 400 if the submitted rule is at fault, 500 if
something else is. -/
def code : Rejection → Nat
  | .malformedConfig _ | .tooManyCidrs _ | .invalidRule _ => 400
  | _ => 500

/-- An explanation followed by its cause, if it has one. -/
def withCause (explanation : String) : Option String → String
  | none => explanation
  | some cause => explanation ++ ": " ++ cause

/-- The wording of a rejection. The networks of a shoot and its provider are read
while looking up, so their errors are followed by the causes. -/
def message : Rejection → String
  | .missingObject => "admission request missing 'object'"
  | .missingSpec => "admission request missing 'spec'"
  | .malformedSpec error => error.message
  | .malformedConfig error => error.message
  | .tooManyCidrs error => error.message
  | .invalidRule error => error.message
  | .lookup error => error.message
  | .seedNetwork error => error.message
  | .shootNetwork error => withCause error.message (some Net.malformedAddress)
  | .unnamedShoot namespaceName => "cluster " ++ namespaceName ++ " has no shoot name"
  | .provider error => withCause error.message error.cause?
  | .missingFilter filterName objectName =>
      "no " ++ filterName ++ " filter found in EnvoyFilter " ++ objectName

end Rejection

end GatewayAcl.Admission
