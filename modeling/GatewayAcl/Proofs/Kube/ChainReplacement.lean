import GatewayAcl.Proofs.Json.Replacement
import GatewayAcl.Proofs.Kube.FilterSearch
import GatewayAcl.Proofs.Kube.GatewayObjects

/-!
# Replacing the filters of a chain

The filters of the chain in which a search has found one are replaced by others, of
which the found one is still the first of its name.  The object decodes as before,
except for that chain, and the search finds the same filter in the same place.
-/

namespace GatewayAcl.Kube

open Json (ReplacedAt)

variable {old : Json} {filters : List Json}

/-- The names that lead to a chain are no positions. -/
theorem position?_of_name : ∀ step ∈ ["spec", "configPatches", "patch", "value",
    "filter_chains", "filters"], Pointer.position? step = none := by
  decide

theorem chainFilters_of_lookup {members : List (String × Json)} {items : List Json}
    (found : members.lookup "filters" = some (.array items)) :
    chainFilters (.object members) = items := by
  simp [chainFilters, Json.member?, found, Json.items?]

theorem exists_array_of_chainFilters {chain filter : Json} {wanted : Json → Bool}
    (oldAt : chain.member? "filters" = some old)
    (found : (chainFilters chain).find? wanted = some filter) :
    ∃ before, old = .array before ∧ before.find? wanted = some filter := by
  rw [chainFilters, oldAt] at found
  cases old with
  | array before => exact ⟨before, rfl, found⟩
  | _ => cases found

/-- Replacing the filters of one chain in the value that a listener is patched
with. -/
theorem chains_replacedAt {value value' : Json} {position : Nat} {chains : List Json}
    {chain : Json}
    (isChains : (value.member? "filter_chains" >>= Json.items?).getD [] = chains)
    (chainAt : chains[position]? = some chain)
    (replacedAt : ReplacedAt old (.array filters)
      ["filter_chains", toString position, "filters"] value value') :
    ∃ inner inner' chain', value = .object inner ∧ value' = .object inner' ∧
      chain.member? "filters" = some old ∧ chainFilters chain' = filters ∧
      (value'.member? "filter_chains" >>= Json.items?).getD [] =
        chains.set position chain' := by
  obtain ⟨inner, inner', part, part', rfl, rfl, replaced, chainsAt⟩ :=
    replacedAt.member_of_name (position?_of_name _ (by simp))
  simp only [Json.member?, replaced.lookup_old] at isChains
  cases part with
  | array items =>
      obtain ⟨_, chain', again, rfl, filtersAt⟩ := chainsAt.item_of_array
      cases isChains
      cases chainAt.symm.trans again
      obtain ⟨members, members', _, _, rfl, rfl, replacedFilters, reached⟩ :=
        filtersAt.member_of_name (position?_of_name _ (by simp))
      cases reached
      refine ⟨inner, inner', _, rfl, rfl, replacedFilters.lookup_old,
        chainFilters_of_lookup replacedFilters.lookup_new, ?_⟩
      rw [Json.member?, replaced.lookup_new]
      rfl
  | _ =>
      cases isChains
      cases chainAt

namespace ConfigPatch

theorem filterChains_of_value {patch : ConfigPatch} {listener : ListenerPatch} {value : Json}
    (isPatch : patch.patch = some listener) (isValue : listener.value = some value) :
    patch.filterChains = (value.member? "filter_chains" >>= Json.items?).getD [] := by
  simp [filterChains, isPatch, isValue]

theorem decoder_replacedAt {part part' : Json} {patch : ConfigPatch} {position : Nat}
    {chain : Json} (canonical : part.Canonical) (decoded : shape.decoder.ofJson part = .ok patch)
    (chainAt : patch.filterChains[position]? = some chain)
    (replacedAt : ReplacedAt old (.array filters)
      ["patch", "value", "filter_chains", toString position, "filters"] part part') :
    chain.member? "filters" = some old ∧
      ((Json.array filters).Canonical → ∃ patch' chain',
        shape.decoder.ofJson part' = .ok patch' ∧
        patch'.filterChains = patch.filterChains.set position chain' ∧
        chainFilters chain' = filters) := by
  obtain ⟨members, members', listener, listener', rfl, rfl, replacedPatch, valueAt⟩ :=
    replacedAt.member_of_name (position?_of_name _ (by simp))
  obtain ⟨inner, inner', value, value', rfl, rfl, replacedValue, chainsAt⟩ :=
    valueAt.member_of_name (position?_of_name _ (by simp))
  obtain ⟨_, _, _, _, rfl, rfl, _, _⟩ :=
    chainsAt.member_of_name (position?_of_name _ (by simp))
  have canonicalListener := canonical.lookup replacedPatch.lookup_old
  have canonicalValue := canonicalListener.lookup replacedValue.lookup_old
  obtain ⟨read, isPatch, readListener, readPatch'⟩ :=
    decoder_replaced canonical.ascending decoded replacedPatch
  have isValue := ListenerPatch.value_of_lookup canonicalListener.ascending readListener
    replacedValue.lookup_old canonicalValue
  have isChains := filterChains_of_value isPatch isValue
  obtain ⟨_, _, chain', _, _, oldAt, newFilters, newChains⟩ :=
    chains_replacedAt isChains.symm chainAt chainsAt
  refine ⟨oldAt, fun canonicalFilters => ?_⟩
  have canonicalValue' := chainsAt.canonical canonicalFilters canonicalValue
  have readListener' := ListenerPatch.decoder_replaced canonicalListener.ascending readListener
    replacedValue canonicalValue'
  refine ⟨_, chain', readPatch' _ readListener', ?_, newFilters⟩
  rw [filterChains_of_value rfl rfl, newChains]

end ConfigPatch

namespace EnvoyFilterSpec

/-- Replacing the filters of the chain in which a filter was found. -/
theorem decoder_replacedAt {json json' : Json} {spec : EnvoyFilterSpec} {name : String}
    {location : FilterLocation} (canonical : json.Canonical)
    (decoded : shape.decoder.ofJson json = .ok spec)
    (found : spec.findFilter? name = some location)
    (replacedAt : ReplacedAt old (.array filters)
      ["configPatches", toString location.configPatch, "patch", "value", "filter_chains",
        toString location.filterChain, "filters"] json json') :
    (∃ before, old = .array before ∧ before.find? (isNamed name) = some location.filter) ∧
      ((Json.array filters).Canonical → filters.find? (isNamed name) = some location.filter →
        ∃ spec', shape.decoder.ofJson json' = .ok spec' ∧
          spec'.findFilter? name = some location) := by
  obtain ⟨patch, patchAt, located, _⟩ := findFilter?_eq_some_iff.mp found
  obtain ⟨_, chain, chainAt, isFirst, _⟩ := ConfigPatch.locate_eq_some_iff.mp located
  obtain ⟨members, members', list, list', rfl, rfl, replacedPatches, patchesAt⟩ :=
    replacedAt.member_of_name (position?_of_name _ (by simp))
  have canonicalList := canonical.lookup replacedPatches.lookup_old
  have readPatches := ((decoder_object_iff canonical.ascending).mp decoded).2
  rw [replacedPatches.lookup_old] at readPatches
  obtain ⟨items, rfl, _⟩ := Decoder.list_ofJson_eq_ok_iff.mp readPatches
  obtain ⟨part, part', partAt, rfl, innerAt⟩ := patchesAt.item_of_array
  obtain ⟨_, again, readPart, readSpec'⟩ :=
    decoder_replaced canonical.ascending decoded replacedPatches partAt
  cases patchAt.symm.trans again
  have canonicalPart := canonicalList.item part (List.mem_of_getElem? partAt)
  obtain ⟨oldAt, readAgain⟩ :=
    ConfigPatch.decoder_replacedAt canonicalPart readPart chainAt innerAt
  refine ⟨exists_array_of_chainFilters oldAt isFirst, fun canonicalFilters kept => ?_⟩
  obtain ⟨patch', chain', readPatch', exchanged, newFilters⟩ := readAgain canonicalFilters
  refine ⟨_, readSpec' patch' readPatch', findFilter?_set found patchAt exchanged ?_⟩
  rw [newFilters, kept]

end EnvoyFilterSpec

namespace SubmittedObject

/-- Replacing the filters of the chain in which a filter was found, in the whole
object. -/
theorem decoder_replacedAt {json json' : Json} {object : SubmittedObject} {part : Json}
    {spec : EnvoyFilterSpec} {name : String} {location : FilterLocation}
    (canonical : json.Canonical) (decoded : decoder.ofJson json = .ok object)
    (hasSpec : object.spec = some part)
    (decodedSpec : EnvoyFilterSpec.shape.decoder.ofJson part = .ok spec)
    (found : spec.findFilter? name = some location)
    (replacedAt : ReplacedAt old (.array filters) location.pointer.steps json json') :
    (∃ before, old = .array before ∧ before.find? (isNamed name) = some location.filter) ∧
      ((Json.array filters).Canonical → filters.find? (isNamed name) = some location.filter →
        ∃ part' spec', decoder.ofJson json' = .ok { object with spec := some part' } ∧
          EnvoyFilterSpec.shape.decoder.ofJson part' = .ok spec' ∧
          spec'.findFilter? name = some location) := by
  have canonicalAfter := fun canonicalFilters => replacedAt.canonical canonicalFilters canonical
  obtain ⟨members, members', _, part', rfl, rfl, replacedSpec, specAt⟩ :=
    replacedAt.member_of_name (position?_of_name _ (by simp))
  obtain ⟨readMetadata, isSpec⟩ := (decoder_object_iff canonical).mp decoded
  cases (hasSpec.symm.trans isSpec).trans replacedSpec.lookup_old
  have canonicalPart := canonical.lookup replacedSpec.lookup_old
  obtain ⟨before, readAgain⟩ :=
    EnvoyFilterSpec.decoder_replacedAt canonicalPart decodedSpec found specAt
  refine ⟨before, fun canonicalFilters kept => ?_⟩
  obtain ⟨spec', decodedSpec', foundAgain⟩ := readAgain canonicalFilters kept
  refine ⟨part', spec', (decoder_object_iff (canonicalAfter canonicalFilters)).mpr ⟨?_, ?_⟩,
    decodedSpec', foundAgain⟩
  · rwa [replacedSpec.lookup_other (by decide)]
  · exact replacedSpec.lookup_new.symm

end SubmittedObject

end GatewayAcl.Kube
