import GatewayAcl.Kube.Extension
import GatewayAcl.Proofs.Kube.GatewayObjects

/-!
# What extensions are decoded as

An extension is read in two ways: as a record of its own when it is looked up, and as
an object of any kind, whose spec is decoded afterwards, when it is submitted.  Both see
the same spec.
-/

namespace GatewayAcl.Kube.Extension

theorem orderly : shape.Orderly :=
  .pair (by decide) (by intros; rfl)

theorem decoder_object_iff {members : List (String × Json)}
    (ascending : Members.Ascending members) {extension : Extension} :
    shape.decoder.ofJson (.object members) = .ok extension ↔
      ∃ metadata spec, members.lookup "metadata" = some metadata ∧
        ObjectMeta.shape.decoder.ofJson metadata = .ok extension.metadata ∧
        members.lookup "spec" = some spec ∧
        ExtensionSpec.shape.decoder.ofJson spec = .ok extension.spec := by
  rw [Shape.decoder_object_iff_of_lenient orderly (by decide) ascending]
  constructor
  · intro assembled
    rcases Shape.assembles_required_iff.mp assembled with
      ⟨_, ⟨metadata, givenMetadata, readMetadata⟩, assembledSpec⟩
    rcases Shape.assembles_required_iff.mp assembledSpec with
      ⟨_, ⟨spec, givenSpec, readSpec⟩, complete⟩
    cases Shape.assembles_nil_iff.mp complete
    exact ⟨metadata, spec, givenMetadata, readMetadata, givenSpec, readSpec⟩
  · intro given
    rcases given with ⟨metadata, spec, givenMetadata, readMetadata, givenSpec, readSpec⟩
    apply Shape.assembles_required_iff.mpr
    refine ⟨_, ⟨metadata, givenMetadata, readMetadata⟩, Shape.assembles_required_iff.mpr ?_⟩
    exact ⟨_, ⟨spec, givenSpec, readSpec⟩, Shape.assembles_nil_iff.mpr rfl⟩

/-- An extension that is decoded as a record is decoded as a submitted object too, with
the same spec. -/
theorem exists_submitted {members : List (String × Json)}
    (canonical : (Json.object members).Canonical) {extension : Extension}
    (decoded : shape.decoder.ofJson (.object members) = .ok extension) :
    ∃ spec, SubmittedObject.decoder.ofJson (.object members) =
        .ok ⟨extension.metadata, some spec⟩ ∧
      ExtensionSpec.shape.decoder.ofJson spec = .ok extension.spec := by
  have ⟨metadata, spec, givenMetadata, readMetadata, givenSpec, readSpec⟩ :=
    (decoder_object_iff canonical.ascending).mp decoded
  refine ⟨spec, (SubmittedObject.decoder_object_iff canonical).mpr ⟨?_, ?_⟩, readSpec⟩
  · rw [givenMetadata]
    exact readMetadata
  · exact givenSpec.symm

end GatewayAcl.Kube.Extension
