import GatewayAcl.Kube.ObjectMeta

/-!
# Submitted objects

An object of any kind, as it is submitted for admission. What its spec looks like
depends on the kind, so it is kept as a value until somebody asks for it.
-/

namespace GatewayAcl.Kube

/-- An object of any kind. -/
structure SubmittedObject where
  metadata : ObjectMeta
  spec : Option Json

namespace SubmittedObject

/-- The shape of the part that all objects share. -/
def metadataShape : Shape ObjectMeta where
  name := "DynamicObject"
  strictness := .lenient
  blank := {}
  fields := [.defaulted "metadata" ObjectMeta.shape.decoder fun _ value => value]

def decoder : Decoder SubmittedObject := fun document => do
  let (others, metadata) ← metadataShape.openDecoder document
  .ok ⟨metadata, (Json.record others).member? "spec"⟩

end SubmittedObject

end GatewayAcl.Kube
