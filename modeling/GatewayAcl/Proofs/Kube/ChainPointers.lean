import GatewayAcl.Proofs.Kube.ChainReplacement

/-!
# Where the pointers of chains lead

A search goes by the fields of decoded records, and the pointer to what it has found
goes by the names of members.  Records are decoded from arrays of their fields as
well, which have no members.  So a pointer leads to the filters that were searched if
every record on its way is an object, and nowhere if one of them is an array.
-/

namespace GatewayAcl.Kube

open Json (follow?)

variable {chain filter : Json} {wanted : Json → Bool} {position : Nat}

/-- The spec of an object, the config patch in a position and the patch in that are
objects, and not arrays of their fields. -/
def HasKeyedPatch (json : Json) (position : Nat) : Prop :=
  ∃ spec patches config listener, json.member? "spec" = some (.object spec) ∧
    spec.lookup "configPatches" = some (.array patches) ∧
    patches[position]? = some (.object config) ∧ config.lookup "patch" = some (.object listener)

theorem FilterLocation.print_pointer (location : FilterLocation) :
    location.pointer.print =
      "/spec/configPatches/" ++ toString location.configPatch ++ "/patch/value/filter_chains/" ++
        toString location.filterChain ++ "/filters" := by
  have named : ∀ step ∈ ["spec", "configPatches", "patch", "value", "filter_chains", "filters"],
      Pointer.escapeStep step = step.toList := by decide
  apply String.toList_injective
  simp only [FilterLocation.pointer, Pointer.print, List.flatMap_cons, List.flatMap_nil,
    Pointer.escapeStep_toString]
  simp [named]

/-- In a chain in which a filter was found there is a list of filters. -/
theorem follow?_chain (found : (chainFilters chain).find? wanted = some filter) :
    ∃ filters, follow? ["filters"] chain = some filters := by
  rw [Json.follow?_of_name (position?_of_name _ (by simp))]
  cases given : chain.member? "filters" with
  | none =>
      rw [chainFilters, given] at found
      cases found
  | some filters => exact ⟨filters, Json.follow?_nil filters⟩

/-- In the value that a listener is patched with, a pointer leads to the filters of a
chain in which a filter was found. -/
theorem follow?_chains {value : Json}
    (chainAt : ((value.member? "filter_chains" >>= Json.items?).getD [])[position]? = some chain)
    (found : (chainFilters chain).find? wanted = some filter) :
    ∃ filters, follow? ["filter_chains", toString position, "filters"] value = some filters := by
  rw [Json.follow?_of_name (position?_of_name _ (by simp))]
  cases given : value.member? "filter_chains" with
  | none =>
      rw [given] at chainAt
      cases chainAt
  | some chains =>
      rw [given] at chainAt
      cases chains with
      | array items =>
          have itemAt : items[position]? = some chain := chainAt
          rw [Option.bind_eq_bind, Option.bind_some, Json.follow?_of_position, itemAt]
          exact follow?_chain found
      | _ => cases chainAt

/-- In a config patch with a patch that is an object, a pointer leads to the filters of
a chain in which a filter was found. -/
theorem ConfigPatch.follow?_patch {config listener : List (String × Json)} {patch : ConfigPatch}
    (canonical : (Json.object config).Canonical)
    (decoded : shape.decoder.ofJson (.object config) = .ok patch)
    (keyed : config.lookup "patch" = some (.object listener))
    (chainAt : patch.filterChains[position]? = some chain)
    (found : (chainFilters chain).find? wanted = some filter) :
    ∃ filters, follow? ["patch", "value", "filter_chains", toString position, "filters"]
      (.object config) = some filters := by
  have canonicalListener := canonical.lookup keyed
  have ⟨_, _, readPatch⟩ := (decoder_object_iff canonical.ascending).mp decoded
  rw [keyed, Decoder.member_option_object] at readPatch
  have ⟨read, readListener, isPatch⟩ := readPatch
  have ⟨_, readValue⟩ :=
    (ListenerPatch.decoder_object_iff canonicalListener.ascending).mp readListener
  -- A value of null is decoded as none, and then there is no chain to point to.
  cases isValue : read.value with
  | none =>
      have noChains : patch.filterChains = [] := by simp [filterChains, isPatch, isValue]
      rw [noChains] at chainAt
      cases chainAt
  | some value =>
      rw [isValue] at readValue
      have given := Decoder.lookup_of_member_json canonicalListener readValue
      rw [filterChains_of_value isPatch isValue] at chainAt
      rw [follow?, keyed, Option.bind_eq_bind, Option.bind_some, follow?, given]
      exact follow?_chains chainAt found

namespace SubmittedObject

variable {json part : Json} {object : SubmittedObject} {spec : EnvoyFilterSpec} {name : String}
  {location : FilterLocation}

/-- If all records on its way are objects, a pointer leads to what was found. -/
theorem follow?_of_hasKeyedPatch (canonical : json.Canonical)
    (decoded : decoder.ofJson json = .ok object) (hasSpec : object.spec = some part)
    (decodedSpec : EnvoyFilterSpec.shape.decoder.ofJson part = .ok spec)
    (found : spec.findFilter? name = some location)
    (keyed : HasKeyedPatch json location.configPatch) :
    ∃ filters, follow? location.pointer.steps json = some filters := by
  obtain ⟨members, patches, config, listener, specAt, patchesAt, configAt, patchAt⟩ := keyed
  cases json with
  | object outer =>
      have givenSpec : outer.lookup "spec" = some (.object members) := specAt
      obtain ⟨_, isSpec⟩ := (decoder_object_iff canonical).mp decoded
      cases (hasSpec.symm.trans isSpec).trans givenSpec
      have canonicalSpec := canonical.lookup givenSpec
      have canonicalPatches := canonicalSpec.lookup patchesAt
      have canonicalConfig := canonicalPatches.item _ (List.mem_of_getElem? configAt)
      obtain ⟨_, readPatches⟩ :=
        (EnvoyFilterSpec.decoder_object_iff canonicalSpec.ascending).mp decodedSpec
      rw [patchesAt, Decoder.member] at readPatches
      obtain ⟨patch, isPatch, readPatch⟩ := Decoder.ofJson_getElem?_of_list readPatches configAt
      obtain ⟨_, again, located, _⟩ := EnvoyFilterSpec.findFilter?_eq_some_iff.mp found
      cases isPatch.symm.trans again
      obtain ⟨_, chain, chainAt, isFirst, _⟩ := ConfigPatch.locate_eq_some_iff.mp located
      obtain ⟨filters, leads⟩ :=
        ConfigPatch.follow?_patch canonicalConfig readPatch patchAt chainAt isFirst
      refine ⟨filters, ?_⟩
      rw [FilterLocation.pointer, follow?, givenSpec, Option.bind_eq_bind, Option.bind_some,
        follow?, patchesAt, Option.bind_eq_bind, Option.bind_some, Json.follow?_of_position,
        configAt]
      exact leads
  | _ => cases specAt

/-- If a pointer leads anywhere, all records on its way are objects. -/
theorem hasKeyedPatch_of_follow? {filters : Json} (canonical : json.Canonical)
    (decoded : decoder.ofJson json = .ok object) (hasSpec : object.spec = some part)
    (decodedSpec : EnvoyFilterSpec.shape.decoder.ofJson part = .ok spec)
    (leads : follow? location.pointer.steps json = some filters) :
    HasKeyedPatch json location.configPatch := by
  obtain ⟨outer, _, isObject, givenSpec, inSpec⟩ :=
    Json.object_of_follow? (position?_of_name _ (by simp)) leads
  subst isObject
  obtain ⟨_, isSpec⟩ := (decoder_object_iff canonical).mp decoded
  cases (hasSpec.symm.trans isSpec).trans givenSpec
  obtain ⟨members, list, isObject, patchesAt, inList⟩ :=
    Json.object_of_follow? (position?_of_name _ (by simp)) inSpec
  subst isObject
  -- An object with numerals as names would do for the pointer, but not for the decoder.
  obtain ⟨_, readPatches⟩ :=
    (EnvoyFilterSpec.decoder_object_iff (canonical.lookup givenSpec).ascending).mp decodedSpec
  rw [patchesAt, Decoder.member] at readPatches
  obtain ⟨patches, isArray, _⟩ := Decoder.list_ofJson_eq_ok_iff.mp readPatches
  subst isArray
  rw [Json.follow?_of_position] at inList
  obtain ⟨_, configAt, inConfig⟩ := Option.bind_eq_some_iff.mp inList
  obtain ⟨config, _, isObject, patchAt, inPatch⟩ :=
    Json.object_of_follow? (position?_of_name _ (by simp)) inConfig
  subst isObject
  obtain ⟨listener, _, isObject, _, _⟩ :=
    Json.object_of_follow? (position?_of_name _ (by simp)) inPatch
  subst isObject
  exact ⟨members, patches, config, listener, givenSpec, patchesAt, configAt, patchAt⟩

end SubmittedObject

end GatewayAcl.Kube
