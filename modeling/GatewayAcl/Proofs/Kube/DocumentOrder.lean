import GatewayAcl.Proofs.Kube.FilterSearch
import Mathlib.Data.Prod.Lex

/-!
# Filters in document order

The chains of a gateway filter object are counted in their config patch, and the config
patches in the object, among all that are listed, whatever they look like.  The search
for a name goes through the chains in this order.  It finds nothing only if no chain
holds a filter of the name, and otherwise the first chain that does, with the first such
filter in it.
-/

namespace GatewayAcl

/-- What holds of the items of a member, but not of an empty list, holds of an array
that is the member. -/
theorem Json.holds_items_iff {json : Json} {name : String} (holds : List Json → Prop)
    (notEmpty : ¬ holds []) :
    holds ((json.member? name >>= items?).getD []) ↔
      ∃ items, json.member? name = some (.array items) ∧ holds items := by
  cases json.member? name with
  | none => simpa using notEmpty
  | some value =>
      cases value with
      | array items => simp [items?]
      | _ => simpa [items?] using notEmpty

namespace Kube

variable {name : String} {filter : Json}

/-- A filter has a name, which is a string. -/
def Named (name : String) (filter : Json) : Prop :=
  filter.member? "name" = some (.string name)

theorem isNamed_iff : isNamed name filter = true ↔ Named name filter := by
  rw [isNamed, Named, beq_iff_eq]
  cases filter.member? "name" with
  | none => simp
  | some value => cases value <;> simp [Json.string?]

/-- The first filter of a name stands behind filters that have another name, or none. -/
def FirstNamed (name : String) (filter : Json) (filters : List Json) : Prop :=
  Named name filter ∧ ∃ before behind, filters = before ++ filter :: behind ∧
    ∀ earlier ∈ before, ¬ Named name earlier

theorem find?_isNamed_eq_some_iff {filters : List Json} :
    filters.find? (isNamed name) = some filter ↔ FirstNamed name filter filters := by
  simp only [List.find?_eq_some_iff_append, FirstNamed, isNamed_iff, Bool.not_eq_true',
    ← Bool.not_eq_true]

namespace ConfigPatch

variable (patch : ConfigPatch) (filterChain : Nat)

/-- An array of filters stands in a config patch, in the filter chain at a position of
the patch's value. -/
def HasFilters (filters : List Json) : Prop :=
  ∃ listener value chains chain, patch.patch = some listener ∧ listener.value = some value ∧
    value.member? "filter_chains" = some (.array chains) ∧ chains[filterChain]? = some chain ∧
    chain.member? "filters" = some (.array filters)

/-- What the search sees at a position of the chains is the array that stands there. -/
theorem exists_chain_iff (holds : List Json → Prop) (notEmpty : ¬ holds []) :
    (∃ chain, patch.filterChains[filterChain]? = some chain ∧ holds (chainFilters chain)) ↔
      ∃ filters, patch.HasFilters filterChain filters ∧ holds filters := by
  constructor
  · intro ⟨chain, chainAt, held⟩
    have ⟨filters, isArray, filtersHeld⟩ := (Json.holds_items_iff holds notEmpty).mp held
    cases isPatch : patch.patch with
    | none => simp [filterChains, isPatch] at chainAt
    | some listener =>
        cases isValue : listener.value with
        | none => simp [filterChains, isPatch, isValue] at chainAt
        | some value =>
            simp only [filterChains, isPatch, isValue, Option.bind_some, Option.bind_eq_bind]
              at chainAt
            have ⟨chains, areChains, at?⟩ :=
              (Json.holds_items_iff (fun items => items[filterChain]? = some chain)
                (by simp)).mp chainAt
            exact ⟨filters, ⟨listener, value, chains, chain, isPatch, isValue, areChains, at?,
              isArray⟩, filtersHeld⟩
  · intro ⟨filters, ⟨listener, value, chains, chain, isPatch, isValue, areChains, at?, isArray⟩,
      filtersHeld⟩
    refine ⟨chain, ?_, (Json.holds_items_iff holds notEmpty).mpr ⟨filters, isArray, filtersHeld⟩⟩
    simpa [filterChains, isPatch, isValue, areChains, Json.items?] using at?

variable {patch} in
theorem mem_filters_iff :
    filter ∈ patch.filters ↔ ∃ filterChain filters, patch.HasFilters filterChain filters ∧
      filter ∈ filters := by
  have inChain := fun filterChain =>
    patch.exists_chain_iff filterChain (filter ∈ ·) List.not_mem_nil
  refine List.mem_flatMap.trans ⟨?_, ?_⟩
  · intro ⟨chain, listed, member⟩
    have ⟨filterChain, chainAt⟩ := List.mem_iff_getElem?.mp listed
    exact ⟨filterChain, (inChain filterChain).mp ⟨chain, chainAt, member⟩⟩
  · intro ⟨filterChain, has⟩
    have ⟨chain, chainAt, member⟩ := (inChain filterChain).mpr has
    exact ⟨chain, List.mem_of_getElem? chainAt, member⟩

end ConfigPatch

namespace EnvoyFilterSpec

variable {spec : EnvoyFilterSpec} {location : FilterLocation}

/-- An array of filters stands in an object, in a filter chain of the config patch at a
position. -/
def HasFilters (spec : EnvoyFilterSpec) (configPatch filterChain : Nat)
    (filters : List Json) : Prop :=
  ∃ patch, spec.configPatches[configPatch]? = some patch ∧ patch.HasFilters filterChain filters

theorem mem_filters_iff :
    filter ∈ spec.filters ↔ ∃ configPatch filterChain filters,
      spec.HasFilters configPatch filterChain filters ∧ filter ∈ filters := by
  refine List.mem_flatMap.trans ⟨?_, ?_⟩
  · intro ⟨patch, listed, inPatch⟩
    have ⟨configPatch, patchAt⟩ := List.mem_iff_getElem?.mp listed
    have ⟨filterChain, filters, has, member⟩ := ConfigPatch.mem_filters_iff.mp inPatch
    exact ⟨configPatch, filterChain, filters, ⟨patch, patchAt, has⟩, member⟩
  · intro ⟨configPatch, filterChain, filters, ⟨patch, patchAt, has⟩, member⟩
    have inPatch := ConfigPatch.mem_filters_iff.mpr ⟨filterChain, filters, has, member⟩
    exact ⟨patch, List.mem_of_getElem? patchAt, inPatch⟩

/-- The search finds nothing exactly if no array holds a filter of the name. -/
theorem findFilter?_eq_none_iff :
    spec.findFilter? name = none ↔
      ∀ configPatch filterChain filters, spec.HasFilters configPatch filterChain filters →
        ∀ filter ∈ filters, ¬ Named name filter := by
  rw [← Option.map_eq_none_iff, map_filter_findFilter?, List.find?_eq_none]
  constructor
  · intro absent configPatch filterChain filters has filter member named
    have listed := mem_filters_iff.mpr ⟨configPatch, filterChain, filters, has, member⟩
    exact absent filter listed (isNamed_iff.mpr named)
  · intro absent filter listed named
    have ⟨configPatch, filterChain, filters, has, member⟩ := mem_filters_iff.mp listed
    exact absent configPatch filterChain filters has filter member (isNamed_iff.mp named)

/-- A found filter stands in the first array of the object that holds one of the name. -/
theorem le_of_findFilter? (found : spec.findFilter? name = some location)
    {configPatch filterChain : Nat} {filters : List Json}
    (has : spec.HasFilters configPatch filterChain filters) (member : filter ∈ filters)
    (named : Named name filter) :
    toLex (location.configPatch, location.filterChain) ≤ toLex (configPatch, filterChain) := by
  have ⟨patch, patchAt, located, firstPatch⟩ := findFilter?_eq_some_iff.mp found
  have ⟨_, _, _, _, firstChain⟩ := ConfigPatch.locate_eq_some_iff.mp located
  have ⟨other, otherAt, otherHas⟩ := has
  rw [Prod.Lex.toLex_le_toLex]
  rcases Nat.lt_trichotomy location.configPatch configPatch with later | same | earlier
  · exact .inl later
  · refine .inr ⟨same, Nat.le_of_not_lt fun earlier => ?_⟩
    subst same
    cases patchAt.symm.trans otherAt
    have ⟨chain, chainAt, inChain⟩ :=
      (patch.exists_chain_iff filterChain (filter ∈ ·) List.not_mem_nil).mpr
        ⟨filters, otherHas, member⟩
    have none := firstChain filterChain earlier chain chainAt
    exact List.find?_eq_none.mp none filter inChain (isNamed_iff.mpr named)
  · have listed := ConfigPatch.mem_filters_iff.mpr ⟨filterChain, filters, otherHas, member⟩
    have none := firstPatch configPatch earlier other otherAt
    exact absurd (isNamed_iff.mpr named) (List.find?_eq_none.mp none filter listed)

/-- The search is complete, and it finds the first filter of a name in document order:
nothing exactly if no array of the object holds one, and otherwise the least place of an
array that does, with the first filter of the name in this array. -/
theorem findFilter?_document_order (spec : EnvoyFilterSpec) (name : String) :
    (spec.findFilter? name = none ↔
      ∀ configPatch filterChain filters, spec.HasFilters configPatch filterChain filters →
        ∀ filter ∈ filters, ¬ Named name filter) ∧
    ∀ location, spec.findFilter? name = some location ↔
      (∃ filters, spec.HasFilters location.configPatch location.filterChain filters ∧
        FirstNamed name location.filter filters) ∧
      ∀ configPatch filterChain filters, spec.HasFilters configPatch filterChain filters →
        (∃ filter ∈ filters, Named name filter) →
        toLex (location.configPatch, location.filterChain) ≤ toLex (configPatch, filterChain) := by
  refine ⟨findFilter?_eq_none_iff, fun location => ?_⟩
  have first := fun (patch : ConfigPatch) =>
    patch.exists_chain_iff location.filterChain (FirstNamed name location.filter)
      (by simp [FirstNamed])
  constructor
  · intro found
    have ⟨patch, patchAt, located, _⟩ := findFilter?_eq_some_iff.mp found
    have ⟨_, chain, chainAt, isFirst, _⟩ := ConfigPatch.locate_eq_some_iff.mp located
    have ⟨filters, has, firstNamed⟩ :=
      (first patch).mp ⟨chain, chainAt, find?_isNamed_eq_some_iff.mp isFirst⟩
    refine ⟨⟨filters, ⟨patch, patchAt, has⟩, firstNamed⟩, ?_⟩
    intro configPatch filterChain others otherHas ⟨filter, member, named⟩
    exact le_of_findFilter? found otherHas member named
  · intro ⟨⟨filters, ⟨patch, patchAt, has⟩, firstNamed⟩, least⟩
    have ⟨chain, chainAt, isFirst⟩ := (first patch).mpr ⟨filters, has, firstNamed⟩
    -- A chain or a config patch in front of the least place would be less.
    apply findFilter?_eq_some_iff.mpr
    refine ⟨patch, patchAt, ConfigPatch.locate_eq_some_iff.mpr ⟨rfl, chain, chainAt,
      find?_isNamed_eq_some_iff.mpr isFirst, ?_⟩, ?_⟩
    · intro before below other otherAt
      rw [List.find?_eq_none]
      intro filter member named
      have ⟨others, otherHas, listed⟩ :=
        (patch.exists_chain_iff before (filter ∈ ·) List.not_mem_nil).mp
          ⟨other, otherAt, member⟩
      have le := least _ _ others ⟨patch, patchAt, otherHas⟩ ⟨filter, listed, isNamed_iff.mp named⟩
      rw [Prod.Lex.toLex_le_toLex] at le
      omega
    · intro before below other otherAt
      rw [List.find?_eq_none]
      intro filter member named
      have ⟨filterChain, others, otherHas, listed⟩ := ConfigPatch.mem_filters_iff.mp member
      have le := least _ _ others ⟨other, otherAt, otherHas⟩ ⟨filter, listed, isNamed_iff.mp named⟩
      rw [Prod.Lex.toLex_le_toLex] at le
      omega

/-- A config patch without a value, a chain that is no object, and a chain whose filters are
no array are passed over, and they are counted. -/
example :
    findFilter? ⟨none, [⟨none, none, none⟩, ⟨none, none, some ⟨none, some (.object [
      ("filter_chains", .array [.null, .object [("filters", .null)],
        .object [("filters", .array [.object [("name", .string "tcp")]])]])])⟩⟩]⟩ "tcp" =
      some ⟨1, 2, .object [("name", .string "tcp")]⟩ := rfl

end EnvoyFilterSpec

end Kube

end GatewayAcl
