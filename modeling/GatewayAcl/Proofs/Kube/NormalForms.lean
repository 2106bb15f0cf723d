import GatewayAcl.Proofs.Kube.ViewLayouts

/-!
# Normal forms of partial views

Encoding what has been decoded drops what has no type, and writes the rest in one notation.
Doing so once more changes nothing.  What a gateway filter object says about its filters is
neither dropped nor changed by it.
-/

namespace GatewayAcl

/-- What a value gives for the field of a name, unless it is null. -/
def Shape.told {α : Type} (shape : Shape α) (json : Json) (name : String) : Option Json :=
  Json.unlessNull (shape.given json name)

/-- What exact decoders read is what the value gives, null being nothing. -/
theorem Shape.told_of_exact {α β : Type} {shape : Shape α} {decoder : Decoder β}
    {encode : β → Json} (exact : decoder.Exact encode) {json : Json} (canonical : json.Canonical)
    {name : String} {value? : Option β}
    (read : decoder.option.member none (shape.given json name) = .ok value?) :
    shape.told json name = value?.map encode := by
  rw [Decoder.member_option_eq_ok_iff] at read
  rw [told]
  cases isTold : Json.unlessNull (shape.given json name) with
  | none =>
      rw [isTold] at read
      cases read
      rfl
  | some value =>
      rw [isTold] at read
      rcases Json.unlessNull_eq_some_iff.mp isTold with ⟨isGiven, _⟩
      cases read with
      | some readValue => exact congrArg some (exact (canonical_given canonical isGiven) readValue)

namespace Kube

/-- What a value that is read as a config patch says, in whichever notation. -/
structure ConfigPatch.Reading where
  applyTo : Option Json
  selector : Option Json
  operation : Option Json
  value : Option Json

namespace ConfigPatch

/-- What a value says as a config patch. -/
def reading (json : Json) : Reading where
  applyTo := shape.told json "applyTo"
  selector := shape.told json "match"
  operation := (shape.told json "patch").bind (ListenerPatch.shape.told · "operation")
  value := (shape.told json "patch").bind (ListenerPatch.shape.told · "value")

/-- What a config patch says. -/
def said (patch : ConfigPatch) : Reading where
  applyTo := patch.applyTo.map .string
  selector := patch.selector
  operation := patch.patch.bind fun listener => listener.operation.map .string
  value := patch.patch.bind (·.value)

end ConfigPatch

/-- The values that are read as the config patches of a gateway filter object. -/
def EnvoyFilterSpec.patchItems (json : Json) : List Json :=
  match shape.given json "configPatches" with
  | some (.array items) => items
  | _ => []

namespace ListenerPatch

theorem told_of_decoded {json : Json} (canonical : json.Canonical) {patch : ListenerPatch}
    (decoded : shape.decoder.ofJson json = .ok patch) :
    shape.told json "operation" = patch.operation.map .string ∧
      shape.told json "value" = patch.value := by
  rcases (layout.decoder_eq_ok_iff canonical).mp decoded with ⟨_, reads⟩
  rw [parts, List.forall_mem_cons, List.forall_mem_singleton] at reads
  rcases reads with ⟨readOperation, readValue⟩
  constructor
  · exact Shape.told_of_exact Decoder.exact_string canonical readOperation
  · have told := Shape.told_of_exact Decoder.exact_json canonical readValue
    rwa [Option.map_id_apply] at told

end ListenerPatch

namespace ConfigPatch

theorem reading_of_decoded {json : Json} (canonical : json.Canonical) {patch : ConfigPatch}
    (decoded : shape.decoder.ofJson json = .ok patch) : reading json = patch.said := by
  rcases (layout.decoder_eq_ok_iff canonical).mp decoded with ⟨_, reads⟩
  rw [parts, List.forall_mem_cons, List.forall_mem_cons, List.forall_mem_singleton] at reads
  rcases reads with ⟨readApplyTo, readSelector, readPatch⟩
  have applyTo : shape.told json "applyTo" = patch.applyTo.map .string :=
    Shape.told_of_exact Decoder.exact_string canonical readApplyTo
  have selector : shape.told json "match" = patch.selector.map id :=
    Shape.told_of_exact Decoder.exact_json canonical readSelector
  rw [Option.map_id_apply] at selector
  have listener : Option.Rel
      (fun value listener => ListenerPatch.shape.decoder.ofJson value = .ok listener)
      (shape.told json "patch") patch.patch := Decoder.member_option_eq_ok_iff.mp readPatch
  have canonicalTold : ∀ value ∈ shape.told json "patch", value.Canonical := fun _ isTold =>
    Shape.canonical_given canonical (Json.unlessNull_eq_some_iff.mp isTold).1
  rw [reading, said, applyTo, selector]
  -- What is told of the patch and the decoded patch are there together or not at all.
  generalize shape.told json "patch" = value? at listener canonicalTold ⊢
  generalize patch.patch = listener? at listener ⊢
  cases listener with
  | none => rfl
  | some readListener =>
      rcases ListenerPatch.told_of_decoded (canonicalTold _ rfl) readListener with
        ⟨operation, value⟩
      simp only [Option.bind_some, operation, value]

end ConfigPatch

namespace EnvoyFilterSpec

theorem told_of_decoded {json : Json} (canonical : json.Canonical) {spec : EnvoyFilterSpec}
    (decoded : shape.decoder.ofJson json = .ok spec) :
    shape.told json "workloadSelector" = spec.workloadSelector ∧
      (patchItems json).map ConfigPatch.reading = spec.configPatches.map ConfigPatch.said := by
  rcases (layout.decoder_eq_ok_iff canonical).mp decoded with ⟨_, reads⟩
  rw [parts, List.forall_mem_cons, List.forall_mem_singleton, Part.reads_optional,
    Part.reads_defaulted, Part.name_optional, Part.name_defaulted] at reads
  rcases reads with ⟨readSelector, readPatches⟩
  constructor
  · have told := Shape.told_of_exact Decoder.exact_json canonical readSelector
    rwa [Option.map_id_apply] at told
  · rw [patchItems]
    cases given : shape.given json "configPatches" with
    | none =>
        rw [given, Decoder.member] at readPatches
        rw [← Except.ok.inj readPatches]
        rfl
    | some value =>
        rw [given, Decoder.member] at readPatches
        rcases Decoder.list_ofJson_eq_ok_iff.mp readPatches with ⟨items, isArray, _⟩
        subst isArray
        apply Decoder.map_eq_map_of_list readPatches
        intro item member patch readItem
        have canonicalItem := (Shape.canonical_given canonical given).item item member
        exact ConfigPatch.reading_of_decoded canonicalItem readItem

end EnvoyFilterSpec

/-- Two values say the same as gateway filter objects: about the workload, and in each config
patch. -/
structure EnvoyFilterSpec.Agree (left right : Json) : Prop where
  workloadSelector :
    EnvoyFilterSpec.shape.told left "workloadSelector" =
      EnvoyFilterSpec.shape.told right "workloadSelector"
  patches (index : Nat) :
    (EnvoyFilterSpec.patchItems left)[index]?.map ConfigPatch.reading =
      (EnvoyFilterSpec.patchItems right)[index]?.map ConfigPatch.reading

/-- Encoding what a view has been decoded as, and decoding it once more, comes to the same
view: so the encoded form is a normal form.  The views of a cluster that carry timestamps are
left out.  A gateway filter object keeps all its config patches and what they say, so that
the same filters are found. -/
theorem views_normalise {json : Json} (canonical : json.Canonical) :
    (∀ spec, ExtensionSpec.shape.decoder.ofJson json = .ok spec →
        ExtensionSpec.shape.decoder.ofJson spec.encode = .ok spec) ∧
      (∀ spec, InfrastructureSpec.shape.decoder.ofJson json = .ok spec →
        InfrastructureSpec.shape.decoder.ofJson spec.encode = .ok spec) ∧
      (∀ status, InfrastructureStatus.shape.decoder.ofJson json = .ok status →
        InfrastructureStatus.shape.decoder.ofJson status.encode = .ok status) ∧
      (∀ spec, ClusterSpec.shape.decoder.ofJson json = .ok spec → spec.Timeless →
        ClusterSpec.shape.decoder.ofJson spec.encode = .ok spec) ∧
      ∀ spec, EnvoyFilterSpec.shape.decoder.ofJson json = .ok spec →
        EnvoyFilterSpec.shape.decoder.ofJson spec.encode = .ok spec ∧
        EnvoyFilterSpec.Agree spec.encode json ∧
        (EnvoyFilterSpec.patchItems spec.encode).length = spec.configPatches.length ∧
        ∀ again, EnvoyFilterSpec.shape.decoder.ofJson spec.encode = .ok again →
          ∀ name, again.findFilter? name = spec.findFilter? name := by
  refine ⟨?_, ?_, ?_, ?_, ?_⟩
  · intro spec decoded
    exact (spec.restores json canonical decoded).back
  · intro spec decoded
    exact (spec.restores json canonical decoded).back
  · intro status decoded
    exact (status.restores json canonical decoded).back
  · intro spec decoded timeless
    exact (ClusterSpec.restores timeless json canonical decoded).back
  · intro spec decoded
    have restored := spec.restores json canonical decoded
    rcases EnvoyFilterSpec.told_of_decoded canonical decoded with ⟨selector, patches⟩
    rcases EnvoyFilterSpec.told_of_decoded restored.canonical restored.back with
      ⟨selectorAgain, patchesAgain⟩
    refine ⟨restored.back, ⟨?_, ?_⟩, ?_, ?_⟩
    · rw [selectorAgain, selector]
    · intro index
      rw [← List.getElem?_map, ← List.getElem?_map, patchesAgain, patches]
    · have sameLength := congrArg List.length patchesAgain
      rwa [List.length_map, List.length_map] at sameLength
    · intro again decodedOther name
      cases restored.back.symm.trans decodedOther
      rfl

namespace Demo

/-- A value that can be read as any of the views, in both notations. -/
def views : Json :=
  .object [
    ("configPatches", .array [
      .array [.string "HTTP_FILTER", .null, .object [("operation", .string "ADD")]],
      .object [("patch", .array [.null, .object [("name", .string "acl")]])]]),
    ("seed", .array [.object [("generation", .ofInt 3), ("name", .string "seed")]]),
    ("shoot", .object [("spec", .array [.null, .array [.string "openstack"]])]),
    ("type", .string "acl")]

def filterSpec : EnvoyFilterSpec :=
  ⟨none, [⟨some "HTTP_FILTER", none, some ⟨some "ADD", none⟩⟩,
    ⟨none, none, some ⟨none, some (.object [("name", .string "acl")])⟩⟩]⟩

def clusterSpec : ClusterSpec where
  seed := { metadata := { generation := some 3, name := some "seed" } }
  shoot := { spec := { provider := { providerType := "openstack" } } }

end Demo

/-- A value in both notations has normal forms. -/
theorem views_normalise_demo :
    Demo.views.Canonical ∧
      EnvoyFilterSpec.shape.decoder.ofJson Demo.views = .ok Demo.filterSpec ∧
      EnvoyFilterSpec.Agree Demo.filterSpec.encode Demo.views ∧
      ClusterSpec.shape.decoder.ofJson Demo.views = .ok Demo.clusterSpec ∧
      Demo.clusterSpec.Timeless ∧
      ClusterSpec.shape.decoder.ofJson Demo.clusterSpec.encode = .ok Demo.clusterSpec := by
  have read : Demo.views.toDocument.toJson = .ok Demo.views := rfl
  have canonical := Document.canonical_of_toJson read
  have timeless : Demo.clusterSpec.Timeless :=
    ⟨⟨rfl, rfl, nofun⟩, ⟨rfl, rfl, nofun⟩⟩
  rcases views_normalise canonical with ⟨_, _, _, cluster, filters⟩
  exact ⟨canonical, rfl, (filters Demo.filterSpec rfl).2.1, rfl, timeless,
    cluster Demo.clusterSpec rfl timeless⟩

end Kube

end GatewayAcl
