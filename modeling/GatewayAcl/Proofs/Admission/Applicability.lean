import GatewayAcl.Proofs.Admission.Readmission
import GatewayAcl.Proofs.Kube.ChainPointers

/-!
# Where patches apply

A patch is computed from the decoded spec of an object and made to the object as it
was submitted.  Its pointer leads to the filters that it replaces if the spec, the
config patch and the patch around them are objects.  The decoder accepts each of them
as an array of fields too, and then the pointer leads nowhere.
-/

namespace GatewayAcl.Admission

open Kube
open Json (follow?)

variable {mutator : Mutator} {request : Request} {json : Json} {patch : Patch}

/-- A patch applies to the object that it was computed from exactly if all records on the
way of its pointer are objects.  Then the pointer leads to an array of filters in which
the filter that the patch keeps is the first that passes connections on.  Otherwise it
leads nowhere. -/
theorem mutate_applies_iff_keyed (canonical : json.Canonical) (submits : request.Submits json)
    (patched : (mutator.mutate request).result = .ok (some patch)) :
    ∃ (location : FilterLocation) (acl : Json),
      patch = ⟨[⟨location.pointer, .array [acl, location.filter]⟩]⟩ ∧
      location.pointer.print =
        "/spec/configPatches/" ++ toString location.configPatch ++
          "/patch/value/filter_chains/" ++ toString location.filterChain ++ "/filters" ∧
      (HasKeyedPatch json location.configPatch → ∃ filters json',
        follow? location.pointer.steps json = some (.array filters) ∧
        filters.find? (isNamed "envoy.filters.network.tcp_proxy") = some location.filter ∧
        patch.applyTo? json = some json') ∧
      (¬ HasKeyedPatch json location.configPatch →
        follow? location.pointer.steps json = none ∧ patch.applyTo? json = none) := by
  have ⟨object, part, spec, location, guard, decoded, hasSpec, decodedSpec, found, isPatch⟩ :=
    submits.exists_location patched
  subst isPatch
  refine ⟨location, _, rfl, location.print_pointer, ?_, ?_⟩
  · intro keyed
    have ⟨old, leads⟩ := SubmittedObject.follow?_of_hasKeyedPatch canonical decoded hasSpec
      decodedSpec found keyed
    have ⟨json', replacedAt⟩ :=
      Json.exists_replacedAt (.array [guard.internal.encode, location.filter]) leads
    have ⟨⟨filters, isArray, isFirst⟩, _⟩ := SubmittedObject.decoder_replacedAt canonical decoded
      hasSpec decodedSpec found replacedAt
    subst isArray
    refine ⟨filters, json', leads, isFirst, ?_⟩
    rw [Patch.applyTo?_single]
    exact Json.replace?_eq_some_iff.mpr ⟨_, replacedAt⟩
  · intro notKeyed
    have nowhere : follow? location.pointer.steps json = none := by
      cases leads : follow? location.pointer.steps json with
      | none => rfl
      | some filters =>
          exact absurd (SubmittedObject.hasKeyedPatch_of_follow? canonical decoded hasSpec
            decodedSpec leads) notKeyed
    refine ⟨nowhere, ?_⟩
    rw [Patch.applyTo?_single]
    exact Json.replace?_eq_none_iff.mpr nowhere

namespace Demo

theorem canonical_object : object.Canonical := by
  have read : object.toDocument.toJson = .ok object := rfl
  exact Document.canonical_of_toJson read

end Demo

/-- The patch for the object of a shoot leads to filters in it. -/
theorem mutate_applies_iff_keyed_demo :
    ∃ (patch : Patch) (location : FilterLocation) (filters : List Json),
      Demo.object.Canonical ∧ Demo.request.Submits Demo.object ∧
      (Demo.mutator.mutate Demo.request).result = .ok (some patch) ∧
      HasKeyedPatch Demo.object location.configPatch ∧
      follow? location.pointer.steps Demo.object = some (.array filters) := by
  have submits : Demo.request.Submits Demo.object := ⟨by decide, _, rfl, rfl⟩
  have ⟨patch, patched, json', made⟩ :
      ∃ patch, (Demo.mutator.mutate Demo.request).result = .ok (some patch) ∧
        ∃ json', patch.applyTo? Demo.object = some json' := ⟨_, rfl, _, rfl⟩
  have ⟨location, _, _, _, applies, appliesNot⟩ :=
    mutate_applies_iff_keyed Demo.canonical_object submits patched
  have keyed : HasKeyedPatch Demo.object location.configPatch := by
    apply Classical.byContradiction
    intro notKeyed
    cases made.symm.trans (appliesNot notKeyed).2
  have ⟨filters, _, leads, _⟩ := applies keyed
  exact ⟨patch, location, filters, Demo.canonical_object, submits, patched, keyed, leads⟩

namespace Demo

/-- The object of the shoot with its spec written as an array of fields. -/
def positional : Json :=
  .object [
    ("metadata", .object [("name", .string "shoot--local--demo")]),
    ("spec", .array [.null,
      .array [.object [("patch", .object [("value", listener)])]]])]

def positionalRequest : Request :=
  .blank .create (SubmittedObject.decoder.ofJson positional).toOption

end Demo

/-- The patch for an object whose spec is an array leads nowhere in it. -/
theorem mutate_positional_not_applies :
    ∃ patch, Demo.positional.Canonical ∧ Demo.positionalRequest.Submits Demo.positional ∧
      (Demo.mutator.mutate Demo.positionalRequest).result = .ok (some patch) ∧
      patch.replacements.map (·.path.print) =
        ["/spec/configPatches/0/patch/value/filter_chains/0/filters"] ∧
      (∀ replacement ∈ patch.replacements,
        follow? replacement.path.steps Demo.positional = none) ∧
      patch.applyTo? Demo.positional = none := by
  have read : Demo.positional.toDocument.toJson = .ok Demo.positional := rfl
  have canonical := Document.canonical_of_toJson read
  have submits : Demo.positionalRequest.Submits Demo.positional := ⟨by decide, _, rfl, rfl⟩
  refine ⟨_, canonical, submits, rfl, ?_, ?_, rfl⟩
  · exact congrArg (fun text => [text]) (FilterLocation.print_pointer ⟨0, 0, .null⟩)
  · intro replacement member
    cases List.mem_singleton.mp member
    rfl

end GatewayAcl.Admission
