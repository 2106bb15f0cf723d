import GatewayAcl.Kube.Cluster
import GatewayAcl.Kube.Infrastructure
import GatewayAcl.Proofs.Kube.Extensions
import GatewayAcl.Proofs.Kube.MetadataLayout

/-!
# The layouts of partial views

Of most objects only a part is typed.  Each type has a layout, so what it types survives
being written, whatever else the object holds.
-/

namespace GatewayAcl.Kube

namespace ListenerPatch

theorem restores (patch : ListenerPatch) : shape.decoder.Restores encode patch := by
  apply layout.restores
  rw [parts, List.forall_mem_cons, List.forall_mem_singleton]
  constructor
  · exact Part.restores_optional_of_exact Decoder.exact_string
  · exact Part.restores_optional_of_exact Decoder.exact_json

end ListenerPatch

namespace ConfigPatch

theorem restores (patch : ConfigPatch) : shape.decoder.Restores encode patch := by
  apply layout.restores
  rw [parts, List.forall_mem_cons, List.forall_mem_cons, List.forall_mem_singleton]
  refine ⟨?_, ?_, ?_⟩
  · exact Part.restores_optional_of_exact Decoder.exact_string
  · exact Part.restores_optional_of_exact Decoder.exact_json
  · exact Part.restores_optional fun listener _ => listener.restores

end ConfigPatch

namespace EnvoyFilterSpec

theorem restores (spec : EnvoyFilterSpec) : shape.decoder.Restores encode spec := by
  apply layout.restores
  rw [parts, List.forall_mem_cons, List.forall_mem_singleton]
  constructor
  · exact Part.restores_optional_of_exact Decoder.exact_json
  · exact Part.restores_defaulted (.array [] (List.forall_mem_nil _)) rfl
      (.list fun patch _ => patch.restores)

end EnvoyFilterSpec

namespace ExtensionSpec

def parts : List (Part ExtensionSpec) := [
  .required "type" .string .string extensionType,
  .optional "providerConfig" .json id providerConfig]

theorem layout : Layout shape encode parts where
  orderly := .pair (by decide) (by intros; rfl)
  names := rfl
  assembles given spec := by
    cases spec
    simp [shape, parts, Shape.assembles_required_iff, Shape.assembles_optional_iff,
      Shape.assembles_nil_iff]
  encode_eq spec := by simp [encode, parts]

theorem restores (spec : ExtensionSpec) : shape.decoder.Restores encode spec := by
  apply layout.restores
  rw [parts, List.forall_mem_cons, List.forall_mem_singleton]
  constructor
  · exact Part.restores_required (Decoder.exact_string.restores _)
  · exact Part.restores_optional_of_exact Decoder.exact_json

end ExtensionSpec

namespace InfrastructureSpec

def parts : List (Part InfrastructureSpec) := [
  .required "type" .string .string providerType]

theorem layout : Layout shape encode parts where
  orderly := ⟨by decide, List.pairwise_singleton _ _⟩
  names := rfl
  assembles given spec := by
    cases spec
    simp [shape, parts, Shape.assembles_required_iff, Shape.assembles_nil_iff]
  encode_eq spec := by simp [encode, parts]

theorem restores (spec : InfrastructureSpec) : shape.decoder.Restores encode spec := by
  apply layout.restores
  rw [parts, List.forall_mem_singleton]
  exact Part.restores_required (Decoder.exact_string.restores _)

end InfrastructureSpec

namespace InfrastructureStatus

def parts : List (Part InfrastructureStatus) := [
  .optional "providerStatus" .json id providerStatus]

theorem layout : Layout shape encode parts where
  orderly := ⟨by decide, List.pairwise_singleton _ _⟩
  names := rfl
  assembles given status := by
    cases status
    simp [shape, parts, Shape.assembles_optional_iff, Shape.assembles_nil_iff]
  encode_eq status := by simp [encode, parts]

theorem restores (status : InfrastructureStatus) : shape.decoder.Restores encode status := by
  apply layout.restores
  rw [parts, List.forall_mem_singleton]
  exact Part.restores_optional_of_exact Decoder.exact_json

end InfrastructureStatus

namespace NetworksText

def parts : List (Part NetworksText) := [
  .optional "nodes" .string .string nodes,
  .optional "pods" .string .string pods]

theorem layout : Layout shape encode parts where
  orderly := .pair (by decide) (by intros; rfl)
  names := rfl
  assembles given networks := by
    cases networks
    simp [shape, parts, Shape.assembles_optional_iff, Shape.assembles_nil_iff]
  encode_eq networks := by simp [encode, parts]

theorem restores (networks : NetworksText) : shape.decoder.Restores encode networks := by
  apply layout.restores
  rw [parts, List.forall_mem_cons, List.forall_mem_singleton]
  constructor
  · exact Part.restores_optional_of_exact Decoder.exact_string
  · exact Part.restores_optional_of_exact Decoder.exact_string

end NetworksText

namespace SeedSpec

def parts : List (Part SeedSpec) := [
  .defaulted "networks" NetworksText.shape.decoder NetworksText.encode {} networks]

theorem layout : Layout shape encode parts where
  orderly := ⟨by decide, List.pairwise_singleton _ _⟩
  names := rfl
  assembles given spec := by
    cases spec
    simp [shape, parts, Shape.assembles_defaulted_iff ({} : NetworksText),
      Shape.assembles_nil_iff]
  encode_eq spec := by simp [encode, parts]

theorem restores (spec : SeedSpec) : shape.decoder.Restores encode spec := by
  apply layout.restores
  rw [parts, List.forall_mem_singleton]
  exact Part.restores_defaulted_of_empty rfl spec.networks.restores

end SeedSpec

namespace Seed

def parts : List (Part Seed) := [
  .defaulted "metadata" ObjectMeta.shape.decoder ObjectMeta.encode {} metadata,
  .defaulted "spec" SeedSpec.shape.decoder SeedSpec.encode {} spec]

theorem layout : Layout shape encode parts where
  orderly := .pair (by decide) (by intros; rfl)
  names := rfl
  assembles given seed := by
    cases seed
    simp [shape, parts, Shape.assembles_defaulted_iff ({} : ObjectMeta),
      Shape.assembles_defaulted_iff ({} : SeedSpec), Shape.assembles_nil_iff]
  encode_eq seed := by simp [encode, parts]

theorem restores {seed : Seed} (timeless : seed.metadata.Timeless) :
    shape.decoder.Restores encode seed := by
  apply layout.restores
  rw [parts, List.forall_mem_cons, List.forall_mem_singleton]
  constructor
  · exact Part.restores_defaulted_of_empty rfl (ObjectMeta.restores timeless)
  · exact Part.restores_defaulted_of_empty rfl seed.spec.restores

end Seed

namespace ShootProvider

def parts : List (Part ShootProvider) := [
  .defaulted "type" .string .string "" providerType,
  .defaulted "workers" (.list .json) .array [] workers]

theorem layout : Layout shape encode parts where
  orderly := .pair (by decide) (by intros; rfl)
  names := rfl
  assembles given provider := by
    cases provider
    simp [shape, parts, Shape.assembles_defaulted_iff "",
      Shape.assembles_defaulted_iff ([] : List Json), Shape.assembles_nil_iff]
  encode_eq provider := by simp [encode, parts]

theorem exact_values : (Decoder.list .json).Exact .array := by
  intro json values canonical decoded
  simpa using Decoder.exact_json.list canonical decoded

theorem restores (provider : ShootProvider) : shape.decoder.Restores encode provider := by
  apply layout.restores
  rw [parts, List.forall_mem_cons, List.forall_mem_singleton]
  constructor
  · exact Part.restores_defaulted (.string "") rfl (Decoder.exact_string.restores _)
  · exact Part.restores_defaulted (.array [] (List.forall_mem_nil _)) rfl (exact_values.restores _)

end ShootProvider

namespace ShootSpec

def parts : List (Part ShootSpec) := [
  .optional "networking" NetworksText.shape.decoder NetworksText.encode networking,
  .defaulted "provider" ShootProvider.shape.decoder ShootProvider.encode {} provider]

theorem layout : Layout shape encode parts where
  orderly := .pair (by decide) (by intros; rfl)
  names := rfl
  assembles given spec := by
    cases spec
    simp [shape, parts, Shape.assembles_optional_iff,
      Shape.assembles_defaulted_iff ({} : ShootProvider), Shape.assembles_nil_iff]
  encode_eq spec := by simp [encode, parts]

theorem restores (spec : ShootSpec) : shape.decoder.Restores encode spec := by
  apply layout.restores
  rw [parts, List.forall_mem_cons, List.forall_mem_singleton]
  constructor
  · exact Part.restores_optional fun networks _ => networks.restores
  · exact Part.restores_defaulted_of_empty rfl spec.provider.restores

end ShootSpec

namespace Shoot

def parts : List (Part Shoot) := [
  .defaulted "metadata" ObjectMeta.shape.decoder ObjectMeta.encode {} metadata,
  .defaulted "spec" ShootSpec.shape.decoder ShootSpec.encode {} spec]

theorem layout : Layout shape encode parts where
  orderly := .pair (by decide) (by intros; rfl)
  names := rfl
  assembles given shoot := by
    cases shoot
    simp [shape, parts, Shape.assembles_defaulted_iff ({} : ObjectMeta),
      Shape.assembles_defaulted_iff ({} : ShootSpec), Shape.assembles_nil_iff]
  encode_eq shoot := by simp [encode, parts]

theorem restores {shoot : Shoot} (timeless : shoot.metadata.Timeless) :
    shape.decoder.Restores encode shoot := by
  apply layout.restores
  rw [parts, List.forall_mem_cons, List.forall_mem_singleton]
  constructor
  · exact Part.restores_defaulted_of_empty rfl (ObjectMeta.restores timeless)
  · exact Part.restores_defaulted_of_empty rfl shoot.spec.restores

end Shoot

namespace ClusterSpec

def parts : List (Part ClusterSpec) := [
  .defaulted "seed" Seed.shape.decoder Seed.encode {} seed,
  .defaulted "shoot" Shoot.shape.decoder Shoot.encode {} shoot]

theorem layout : Layout shape encode parts where
  orderly := .pair (by decide) (by intros; rfl)
  names := rfl
  assembles given spec := by
    cases spec
    simp [shape, parts, Shape.assembles_defaulted_iff ({} : Seed),
      Shape.assembles_defaulted_iff ({} : Shoot), Shape.assembles_nil_iff]
  encode_eq spec := by simp [encode, parts]

/-- No timestamp stands in the metadata of the seed or of the shoot. -/
structure Timeless (spec : ClusterSpec) : Prop where
  seed : spec.seed.metadata.Timeless
  shoot : spec.shoot.metadata.Timeless

theorem restores {spec : ClusterSpec} (timeless : spec.Timeless) :
    shape.decoder.Restores encode spec := by
  apply layout.restores
  rw [parts, List.forall_mem_cons, List.forall_mem_singleton]
  constructor
  · exact Part.restores_defaulted_of_empty rfl (Seed.restores timeless.seed)
  · exact Part.restores_defaulted_of_empty rfl (Shoot.restores timeless.shoot)

end ClusterSpec

end GatewayAcl.Kube
