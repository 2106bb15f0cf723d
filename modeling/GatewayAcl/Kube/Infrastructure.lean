import GatewayAcl.Kube.ObjectMeta

/-!
# Infrastructures

The object through which a provider reports on the infrastructure of a shoot.
What its status looks like is the provider's own business.
-/

namespace GatewayAcl.Kube

/-- The part of an infrastructure that says who provides it. -/
structure InfrastructureSpec where
  providerType : String

namespace InfrastructureSpec

def shape : Shape InfrastructureSpec where
  name := "InfrastructureSpec"
  strictness := .lenient
  blank := ⟨""⟩
  fields := [.required "type" .string fun _ value => ⟨value⟩]

def encode (spec : InfrastructureSpec) : Json :=
  .record [("type", .string spec.providerType)]

end InfrastructureSpec

/-- The part of an infrastructure that its provider writes. -/
structure InfrastructureStatus where
  providerStatus : Option Json

namespace InfrastructureStatus

def shape : Shape InfrastructureStatus where
  name := "InfrastructureStatus"
  strictness := .lenient
  blank := ⟨none⟩
  fields := [.optional "providerStatus" .json fun _ value => ⟨value⟩]

def encode (status : InfrastructureStatus) : Json :=
  .record (Json.optionalMember "providerStatus" id status.providerStatus)

end InfrastructureStatus

structure Infrastructure where
  metadata : ObjectMeta
  spec : InfrastructureSpec
  status : Option InfrastructureStatus

namespace Infrastructure

def shape : Shape Infrastructure where
  name := "Infrastructure"
  strictness := .lenient
  blank := ⟨{}, ⟨""⟩, none⟩
  fields := [
    .required "metadata" ObjectMeta.shape.decoder fun object value =>
      { object with metadata := value },
    .required "spec" InfrastructureSpec.shape.decoder fun object value =>
      { object with spec := value },
    .keyedOptional "status" InfrastructureStatus.shape.decoder fun object value =>
      { object with status := value }]

/-- What the provider reports, if it has reported anything. -/
def providerStatus? (infrastructure : Infrastructure) : Option Json :=
  infrastructure.status.bind (·.providerStatus)

end Infrastructure

end GatewayAcl.Kube
