import GatewayAcl.Admission.Request
import GatewayAcl.Admission.RuleRequest
import GatewayAcl.Admission.Settings

/-!
# Validator

Checks extensions when they are submitted, so that a bad rule is reported to its
user and not when the gateway is changed the next time.
-/

namespace GatewayAcl.Admission

open Kube

/-- What is needed to check extensions. -/
structure Validator where
  cidrLimit : Nat
  deriving DecidableEq, Repr

namespace Validator

def ofSettings (settings : Settings) : Validator := ⟨settings.cidrLimit⟩

/-- Checks the rule in an extension's spec, if there is one. -/
def checkSpec (validator : Validator) (spec : ExtensionSpec) : Except Rejection Unit :=
  if spec.extensionType != Extension.aclType then .ok ()
  else
    match spec.draft? with
    | .error rejection => .error rejection
    | .ok none => .ok ()
    | .ok (some draft) => do
        (draft.checkCount validator.cidrLimit).mapError .tooManyCidrs
        let _ ← (Rule.validate (some draft)).mapError .invalidRule
        .ok ()

/-- Checks a request. Nothing is wrong with a deletion. -/
def validate (validator : Validator) (request : Request) : Except Rejection Unit :=
  if request.operation = .delete then .ok ()
  else do
    let (_, spec) ← request.readSpec ExtensionSpec.shape.decoder
    validator.checkSpec spec

end Validator

end GatewayAcl.Admission
