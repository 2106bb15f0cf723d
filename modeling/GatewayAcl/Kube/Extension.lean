import GatewayAcl.Kube.ObjectMeta

/-!
# Extensions

The object in which a user submits an access rule for a shoot.
-/

namespace GatewayAcl.Kube

/-- The part of an extension that its user writes. -/
structure ExtensionSpec where
  extensionType : String
  providerConfig : Option Json

namespace ExtensionSpec

def shape : Shape ExtensionSpec where
  name := "ExtensionSpec"
  strictness := .lenient
  blank := ⟨"", none⟩
  fields := [
    .required "type" .string fun spec value => { spec with extensionType := value },
    .optional "providerConfig" .json fun spec value => { spec with providerConfig := value }]

def encode (spec : ExtensionSpec) : Json :=
  .record <|
    ("type", .string spec.extensionType) ::
    Json.optionalMember "providerConfig" id spec.providerConfig

end ExtensionSpec

structure Extension where
  metadata : ObjectMeta
  spec : ExtensionSpec

namespace Extension

/-- The type of the extensions that carry access rules. -/
def aclType : String := "acl"

/-- The name of the extension that carries a shoot's access rule. -/
def aclName : String := "acl"

def shape : Shape Extension where
  name := "Extension"
  strictness := .lenient
  blank := ⟨{}, ⟨"", none⟩⟩
  fields := [
    .required "metadata" ObjectMeta.shape.decoder fun object value =>
      { object with metadata := value },
    .required "spec" ExtensionSpec.shape.decoder fun object value => { object with spec := value }]

/-- The extension carries access rules. -/
def isAcl (extension : Extension) : Bool :=
  extension.spec.extensionType == aclType

def isDeleting (extension : Extension) : Bool :=
  extension.metadata.deletionTimestamp.isSome

end Extension

end GatewayAcl.Kube
