import GatewayAcl.Kube.EnvoyFilter
import GatewayAcl.Kube.SubmittedObject
import GatewayAcl.Proofs.Json.Layouts

/-!
# What gateway filter objects are decoded as

The fields of a gateway filter object, of its config patches and of their patches
are what their own members say.  So when one member is exchanged, one field
changes with it.
-/

namespace GatewayAcl.Kube

open Members (Replaced)

namespace ListenerPatch

theorem orderly : shape.Orderly :=
  .pair (by decide) (by intros; rfl)

def parts : List (Part ListenerPatch) := [
  .optional "operation" .string .string operation,
  .optional "value" .json id value]

theorem layout : Layout shape encode parts where
  orderly := orderly
  names := rfl
  assembles given patch := by
    cases patch
    simp [shape, parts, Shape.assembles_optional_iff, Shape.assembles_nil_iff]
  encode_eq patch := by simp [encode, parts]

theorem decoder_object_iff {members : List (String × Json)}
    (ascending : Members.Ascending members) {patch : ListenerPatch} :
    shape.decoder.ofJson (.object members) = .ok patch ↔
      Decoder.string.option.member none (members.lookup "operation") = .ok patch.operation ∧
      Decoder.json.option.member none (members.lookup "value") = .ok patch.value := by
  rw [layout.decoder_object_eq_ok_iff (by decide) ascending, parts, List.forall_mem_cons,
    List.forall_mem_singleton]
  rfl

theorem value_of_lookup {members inner : List (String × Json)}
    (ascending : Members.Ascending members) {patch : ListenerPatch}
    (decoded : shape.decoder.ofJson (.object members) = .ok patch)
    (found : members.lookup "value" = some (.object inner))
    (canonical : (Json.object inner).Canonical) : patch.value = some (.object inner) := by
  obtain ⟨_, readValue⟩ := (decoder_object_iff ascending).mp decoded
  rw [found, Decoder.member_option_object] at readValue
  obtain ⟨value, readInner, isValue⟩ := readValue
  cases (Decoder.json_ofJson canonical).symm.trans readInner
  exact isValue

theorem decoder_replaced {members members' inner' : List (String × Json)} {old : Json}
    (ascending : Members.Ascending members) {patch : ListenerPatch}
    (decoded : shape.decoder.ofJson (.object members) = .ok patch)
    (replaced : Replaced "value" old (.object inner') members members')
    (canonical' : (Json.object inner').Canonical) :
    shape.decoder.ofJson (.object members') =
      .ok { patch with value := some (.object inner') } := by
  obtain ⟨readOperation, _⟩ := (decoder_object_iff ascending).mp decoded
  apply (decoder_object_iff (replaced.ascending ascending)).mpr
  constructor
  · rwa [replaced.lookup_other (by decide)]
  · rw [replaced.lookup_new]
    exact Decoder.member_option_object.mpr ⟨_, Decoder.json_ofJson canonical', rfl⟩

end ListenerPatch

namespace ConfigPatch

theorem orderly : shape.Orderly :=
  .triple (by decide) (by intros; rfl) (by intros; rfl) (by intros; rfl)

def parts : List (Part ConfigPatch) := [
  .optional "applyTo" .string .string applyTo,
  .optional "match" .json id selector,
  .optional "patch" ListenerPatch.shape.decoder ListenerPatch.encode patch]

theorem layout : Layout shape encode parts where
  orderly := orderly
  names := rfl
  assembles given patch := by
    cases patch
    simp only [shape, parts, Shape.assembles_optional_iff, Shape.assembles_nil_iff,
      List.forall_mem_cons, List.not_mem_nil, false_implies, implies_true, Part.name_optional,
      Part.reads_optional]
    grind
  encode_eq patch := by simp [encode, parts]

theorem decoder_object_iff {members : List (String × Json)}
    (ascending : Members.Ascending members) {patch : ConfigPatch} :
    shape.decoder.ofJson (.object members) = .ok patch ↔
      Decoder.string.option.member none (members.lookup "applyTo") = .ok patch.applyTo ∧
      Decoder.json.option.member none (members.lookup "match") = .ok patch.selector ∧
      ListenerPatch.shape.decoder.option.member none (members.lookup "patch") =
        .ok patch.patch := by
  rw [layout.decoder_object_eq_ok_iff (by decide) ascending, parts, List.forall_mem_cons,
    List.forall_mem_cons, List.forall_mem_singleton]
  rfl

theorem decoder_replaced {members members' inner inner' : List (String × Json)}
    (ascending : Members.Ascending members) {patch : ConfigPatch}
    (decoded : shape.decoder.ofJson (.object members) = .ok patch)
    (replaced : Replaced "patch" (.object inner) (.object inner') members members') :
    ∃ listener, patch.patch = some listener ∧
      ListenerPatch.shape.decoder.ofJson (.object inner) = .ok listener ∧
      ∀ listener', ListenerPatch.shape.decoder.ofJson (.object inner') = .ok listener' →
        shape.decoder.ofJson (.object members') = .ok { patch with patch := some listener' } := by
  obtain ⟨readApplyTo, readSelector, readPatch⟩ := (decoder_object_iff ascending).mp decoded
  rw [replaced.lookup_old, Decoder.member_option_object] at readPatch
  obtain ⟨listener, readListener, isPatch⟩ := readPatch
  refine ⟨listener, isPatch, readListener, fun listener' readListener' => ?_⟩
  apply (decoder_object_iff (replaced.ascending ascending)).mpr
  refine ⟨?_, ?_, ?_⟩
  · rwa [replaced.lookup_other (by decide)]
  · rwa [replaced.lookup_other (by decide)]
  · rw [replaced.lookup_new]
    exact Decoder.member_option_object.mpr ⟨listener', readListener', rfl⟩

end ConfigPatch

namespace EnvoyFilterSpec

theorem orderly : shape.Orderly :=
  .pair (by decide) (by intros; rfl)

def parts : List (Part EnvoyFilterSpec) := [
  .optional "workloadSelector" .json id workloadSelector,
  .defaulted "configPatches" (.list ConfigPatch.shape.decoder)
    (fun patches => .array (patches.map ConfigPatch.encode)) [] configPatches]

theorem layout : Layout shape encode parts where
  orderly := orderly
  names := rfl
  assembles given spec := by
    cases spec
    simp [shape, parts, Shape.assembles_optional_iff,
      Shape.assembles_defaulted_iff ([] : List ConfigPatch), Shape.assembles_nil_iff]
  encode_eq spec := by simp [encode, parts]

theorem decoder_object_iff {members : List (String × Json)}
    (ascending : Members.Ascending members) {spec : EnvoyFilterSpec} :
    shape.decoder.ofJson (.object members) = .ok spec ↔
      Decoder.json.option.member none (members.lookup "workloadSelector") =
        .ok spec.workloadSelector ∧
      ConfigPatch.shape.decoder.list.member [] (members.lookup "configPatches") =
        .ok spec.configPatches := by
  rw [layout.decoder_object_eq_ok_iff (by decide) ascending, parts, List.forall_mem_cons,
    List.forall_mem_singleton]
  rfl

theorem decoder_replaced {members members' : List (String × Json)} {items : List Json}
    {position : Nat} {part part' : Json}
    (ascending : Members.Ascending members) {spec : EnvoyFilterSpec}
    (decoded : shape.decoder.ofJson (.object members) = .ok spec)
    (replaced : Replaced "configPatches" (.array items) (.array (items.set position part'))
      members members')
    (partAt : items[position]? = some part) :
    ∃ patch, spec.configPatches[position]? = some patch ∧
      ConfigPatch.shape.decoder.ofJson part = .ok patch ∧
      ∀ patch', ConfigPatch.shape.decoder.ofJson part' = .ok patch' →
        shape.decoder.ofJson (.object members') =
          .ok { spec with configPatches := spec.configPatches.set position patch' } := by
  obtain ⟨readSelector, readPatches⟩ := (decoder_object_iff ascending).mp decoded
  rw [replaced.lookup_old, Decoder.member] at readPatches
  obtain ⟨patch, patchAt, readPatch⟩ := Decoder.ofJson_getElem?_of_list readPatches partAt
  refine ⟨patch, patchAt, readPatch, fun patch' readPatch' => ?_⟩
  apply (decoder_object_iff (replaced.ascending ascending)).mpr
  constructor
  · rwa [replaced.lookup_other (by decide)]
  · rw [replaced.lookup_new, Decoder.member]
    exact Decoder.list_ofJson_set readPatches readPatch'

end EnvoyFilterSpec

namespace SubmittedObject

theorem orderly : metadataShape.Orderly where
  distinct := by decide
  commutes := List.pairwise_singleton _ _

theorem member?_others {members : List (String × Json)} (ascending : Members.Ascending members) :
    (Json.record (metadataShape.others members)).member? "spec" = members.lookup "spec" := by
  have inOrder : Members.Ascending (metadataShape.others members) := ascending.filter _
  rw [Json.record, Members.ofList_of_ascending inOrder, Json.member?, Shape.others]
  exact Members.lookup_filter (fun name => decide (name ∉ metadataShape.names)) (by decide)
    members

theorem decoder_object_iff {members : List (String × Json)}
    (canonical : (Json.object members).Canonical) {object : SubmittedObject} :
    decoder.ofJson (.object members) = .ok object ↔
      ObjectMeta.shape.decoder.member {} (members.lookup "metadata") = .ok object.metadata ∧
      object.spec = members.lookup "spec" := by
  have ascending := canonical.ascending
  have entered (met : List String) (metadata : ObjectMeta) :
      metadataShape.enterMembers (Json.membersToDocuments members) [] {} = .ok (met, metadata) ↔
        met = metadataShape.known members ++ [] ∧
          (∀ entry ∈ members, metadataShape.Admits entry.1) ∧
          Shape.enterGiven (members.lookup ·) metadataShape.fields {} = .ok metadata :=
    Shape.enterMembers_eq_ok_iff orderly ascending fun entry _ => List.not_mem_nil
  rw [Decoder.ofJson, Json.toDocument, decoder, Shape.openDecoder,
    Shape.enterOpenMembers_eq_map (by rfl) canonical.entry]
  simp only [except_bind_eq_ok_iff, except_map_eq_ok_iff]
  constructor
  · rintro ⟨_, ⟨⟨met, metadata⟩, decoded, rfl⟩, same⟩
    obtain ⟨_, _, given⟩ := (entered met metadata).mp decoded
    obtain ⟨value, readMetadata, same'⟩ := Shape.enterGiven_defaulted {} given rfl
    cases same'
    cases same
    exact ⟨readMetadata, member?_others ascending⟩
  · rintro ⟨readMetadata, isSpec⟩
    refine ⟨_, ⟨(_, object.metadata), (entered _ _).mpr ⟨rfl, ?_, ?_⟩, rfl⟩, ?_⟩
    · exact fun _ _ => .inr (by decide)
    · apply Shape.enterGiven_of_member readMetadata _ rfl
      rfl
    · rw [member?_others ascending, ← isSpec]

end SubmittedObject

end GatewayAcl.Kube
