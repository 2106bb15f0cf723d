import GatewayAcl.Admission.Rejection
import GatewayAcl.ProviderConfig

/-!
# Requested rules

Which rule an extension asks for, if it asks for one at all. The check of a
submitted extension and the compilation of its rule both start from here, so they
agree on what is a rule and what is wrong with it.
-/

namespace GatewayAcl

open Admission Kube

namespace Kube

/-- The draft in an extension's provider configuration, if there is one. -/
def ExtensionSpec.draft? (spec : ExtensionSpec) : Except Rejection (Option DraftRule) :=
  match spec.providerConfig with
  | none => .ok none
  | some raw =>
      ((ProviderConfig.decode raw).mapError .malformedConfig).map (·.rule)

/-- The rule that an extension asks for. One that is of another type, is being
deleted, has no configuration or has no rule in it asks for none. -/
def Extension.rule? (extension : Extension) : Except Rejection (Option Rule) :=
  if extension.isAcl && !extension.isDeleting then
    match extension.spec.draft? with
    | .error rejection => .error rejection
    | .ok none => .ok none
    | .ok (some draft) => ((Rule.validate (some draft)).mapError .invalidRule).map some
  else .ok none

end Kube

end GatewayAcl
