import GatewayAcl.Kube.EnvoyFilter

/-!
# The search for a filter

The filters of a gateway filter object in the order in which they are listed, and
what the search for a name finds among them: the first filter of that name, and
where it stands.
-/

namespace GatewayAcl

section Positions

variable {α β γ : Type} {find : α → Nat → Option β}

/-- A search that goes by positions finds what it finds at the first position that
has anything. -/
theorem findSome?_zipIdx_eq_some_iff {items : List α} {result : β} : ∀ {start : Nat},
    (items.zipIdx start).findSome? (fun entry => find entry.1 entry.2) = some result ↔
      ∃ index item, items[index]? = some item ∧ find item (start + index) = some result ∧
        ∀ before < index, ∀ other, items[before]? = some other →
          find other (start + before) = none := by
  induction items with
  | nil => simp
  | cons head rest ih =>
      intro start
      rw [List.zipIdx_cons, List.findSome?_cons]
      cases atHead : find head start with
      | some found =>
          simp only [Option.some.injEq]
          constructor
          · rintro rfl
            exact ⟨0, head, rfl, atHead, fun before below => absurd below (Nat.not_lt_zero _)⟩
          · rintro ⟨index, item, at?, isFound, first⟩
            cases index with
            | zero =>
                cases at?
                exact Option.some.inj (atHead.symm.trans isFound)
            | succ index =>
                have nothing := first 0 (Nat.succ_pos index) head rfl
                cases atHead.symm.trans nothing
      | none =>
          simp only [ih]
          constructor
          · rintro ⟨index, item, at?, isFound, first⟩
            refine ⟨index + 1, item, at?, by rwa [Nat.add_right_comm] at isFound, ?_⟩
            intro before below other otherAt
            cases before with
            | zero =>
                cases otherAt
                exact atHead
            | succ before =>
                have nothing := first before (Nat.lt_of_succ_lt_succ below) other otherAt
                rwa [Nat.add_right_comm] at nothing
          · rintro ⟨index, item, at?, isFound, first⟩
            cases index with
            | zero =>
                cases at?
                cases atHead.symm.trans isFound
            | succ index =>
                refine ⟨index, item, at?, by rwa [Nat.add_right_comm], ?_⟩
                intro before below other otherAt
                have nothing := first (before + 1) (Nat.succ_lt_succ below) other otherAt
                rwa [Nat.add_right_comm]

/-- Without the positions a search that goes by them is a plain search. -/
theorem findSome?_zipIdx_map {image : β → γ} {plain : α → Option γ}
    (forgets : ∀ item index, (find item index).map image = plain item) (items : List α) :
    ∀ start : Nat,
      ((items.zipIdx start).findSome? fun entry => find entry.1 entry.2).map image =
        items.findSome? plain := by
  induction items with
  | nil => simp
  | cons head rest ih =>
      intro start
      rw [List.zipIdx_cons, List.findSome?_cons, List.findSome?_cons, ← forgets head start]
      cases find head start with
      | none => exact ih (start + 1)
      | some found => rfl

end Positions

namespace Kube

/-- The filter of a name that a filter chain holds first, with the place of the
chain. -/
def locateInChain (name : String) (configPatch : Nat) (chain : Json) (filterChain : Nat) :
    Option FilterLocation :=
  ((chainFilters chain).find? (isNamed name)).map fun filter =>
    ⟨configPatch, filterChain, filter⟩

namespace ConfigPatch

/-- The filters that a config patch describes, chain by chain. -/
def filters (patch : ConfigPatch) : List Json :=
  patch.filterChains.flatMap chainFilters

/-- The filter of a name that a config patch describes first, with its place. -/
def locate (name : String) (patch : ConfigPatch) (configPatch : Nat) : Option FilterLocation :=
  patch.filterChains.zipIdx.findSome? fun entry =>
    locateInChain name configPatch entry.1 entry.2

theorem map_filter_locate (name : String) (patch : ConfigPatch) (configPatch : Nat) :
    (patch.locate name configPatch).map (·.filter) = patch.filters.find? (isNamed name) := by
  rw [filters, List.find?_flatMap]
  refine findSome?_zipIdx_map (fun chain filterChain => ?_) patch.filterChains 0
  rw [locateInChain, Option.map_map]
  exact Option.map_id'

theorem locate_eq_none_iff {name : String} {patch : ConfigPatch} {configPatch : Nat} :
    patch.locate name configPatch = none ↔ patch.filters.find? (isNamed name) = none := by
  rw [← patch.map_filter_locate name configPatch, Option.map_eq_none_iff]

theorem locate_eq_some_iff {name : String} {patch : ConfigPatch} {configPatch : Nat}
    {location : FilterLocation} :
    patch.locate name configPatch = some location ↔
      location.configPatch = configPatch ∧
        ∃ chain, patch.filterChains[location.filterChain]? = some chain ∧
          (chainFilters chain).find? (isNamed name) = some location.filter ∧
          ∀ before < location.filterChain, ∀ other, patch.filterChains[before]? = some other →
            (chainFilters other).find? (isNamed name) = none := by
  rw [locate, findSome?_zipIdx_eq_some_iff]
  simp only [locateInChain, Nat.zero_add, Option.map_eq_some_iff, Option.map_eq_none_iff]
  constructor
  · rintro ⟨index, chain, at?, ⟨filter, found, rfl⟩, first⟩
    exact ⟨rfl, chain, at?, found, first⟩
  · obtain ⟨_, filterChain, filter⟩ := location
    rintro ⟨rfl, chain, at?, found, first⟩
    exact ⟨filterChain, chain, at?, ⟨filter, found, rfl⟩, first⟩

end ConfigPatch

namespace EnvoyFilterSpec

/-- The filters of an object in document order. -/
def filters (spec : EnvoyFilterSpec) : List Json :=
  spec.configPatches.flatMap ConfigPatch.filters

theorem findFilter?_eq (spec : EnvoyFilterSpec) (name : String) :
    spec.findFilter? name =
      spec.configPatches.zipIdx.findSome? fun entry => entry.1.locate name entry.2 :=
  rfl

/-- The search finds the first filter of the name in document order. -/
theorem map_filter_findFilter? (spec : EnvoyFilterSpec) (name : String) :
    (spec.findFilter? name).map (·.filter) = spec.filters.find? (isNamed name) := by
  rw [filters, List.find?_flatMap, findFilter?_eq]
  exact findSome?_zipIdx_map (fun patch configPatch => patch.map_filter_locate name configPatch)
    spec.configPatches 0

/-- The search finds a place exactly if its filter is the first of the name in its
chain, and no chain before it has one, neither in its config patch nor in those
before. -/
theorem findFilter?_eq_some_iff {spec : EnvoyFilterSpec} {name : String}
    {location : FilterLocation} :
    spec.findFilter? name = some location ↔
      ∃ patch, spec.configPatches[location.configPatch]? = some patch ∧
        patch.locate name location.configPatch = some location ∧
        ∀ before < location.configPatch, ∀ other, spec.configPatches[before]? = some other →
          other.filters.find? (isNamed name) = none := by
  rw [findFilter?_eq, findSome?_zipIdx_eq_some_iff]
  simp only [Nat.zero_add, ConfigPatch.locate_eq_none_iff]
  constructor
  · rintro ⟨index, patch, at?, found, first⟩
    cases (ConfigPatch.locate_eq_some_iff.mp found).1
    exact ⟨patch, at?, found, first⟩
  · rintro ⟨patch, at?, found, first⟩
    exact ⟨location.configPatch, patch, at?, found, first⟩

/-- The search finds the same place again after the chain in that place has been
exchanged for one with the same first filter of the name. -/
theorem findFilter?_set {spec : EnvoyFilterSpec} {name : String} {location : FilterLocation}
    {patch patch' : ConfigPatch} {chain' : Json}
    (found : spec.findFilter? name = some location)
    (at? : spec.configPatches[location.configPatch]? = some patch)
    (exchanged : patch'.filterChains = patch.filterChains.set location.filterChain chain')
    (kept : (chainFilters chain').find? (isNamed name) = some location.filter) :
    ({ spec with configPatches := spec.configPatches.set location.configPatch patch' } :
      EnvoyFilterSpec).findFilter? name = some location := by
  obtain ⟨_, again, located, firstPatch⟩ := findFilter?_eq_some_iff.mp found
  cases at?.symm.trans again
  obtain ⟨_, chain, chainAt, _, firstChain⟩ := ConfigPatch.locate_eq_some_iff.mp located
  have patchInside := (List.getElem?_eq_some_iff.mp at?).1
  have chainInside := (List.getElem?_eq_some_iff.mp chainAt).1
  apply findFilter?_eq_some_iff.mpr
  refine ⟨patch', List.getElem?_set_self patchInside, ?_, ?_⟩
  · apply ConfigPatch.locate_eq_some_iff.mpr
    rw [exchanged]
    refine ⟨rfl, chain', List.getElem?_set_self chainInside, kept, ?_⟩
    intro before below other otherAt
    rw [List.getElem?_set_ne (Nat.ne_of_gt below)] at otherAt
    exact firstChain before below other otherAt
  · intro before below other otherAt
    rw [List.getElem?_set_ne (Nat.ne_of_gt below)] at otherAt
    exact firstPatch before below other otherAt

end EnvoyFilterSpec

end Kube

end GatewayAcl
