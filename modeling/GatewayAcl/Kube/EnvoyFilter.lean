import GatewayAcl.Json.Pointer
import GatewayAcl.Kube.ObjectMeta

/-!
# Gateway filter objects

The object that configures the gateway's listeners. It belongs to the platform,
so only what is needed to find a filter has a type, and everything else is kept
as it is.
-/

namespace GatewayAcl.Kube

/-- What one config patch puts into the gateway's configuration. -/
structure ListenerPatch where
  operation : Option String
  value : Option Json

namespace ListenerPatch

def shape : Shape ListenerPatch where
  name := "Patch"
  strictness := .lenient
  blank := ⟨none, none⟩
  fields := [
    .optional "operation" .string fun patch value => { patch with operation := value },
    .optional "value" .json fun patch value => { patch with value := value }]

def encode (patch : ListenerPatch) : Json :=
  .record <|
    Json.optionalMember "operation" .string patch.operation ++
    Json.optionalMember "value" id patch.value

end ListenerPatch

/-- One change to the gateway's configuration and where it applies. -/
structure ConfigPatch where
  applyTo : Option String
  selector : Option Json
  patch : Option ListenerPatch

namespace ConfigPatch

def shape : Shape ConfigPatch where
  name := "ConfigPatch"
  strictness := .lenient
  blank := ⟨none, none, none⟩
  fields := [
    .optional "applyTo" .string fun patch value => { patch with applyTo := value },
    .optional "match" .json fun patch value => { patch with selector := value },
    .optional "patch" ListenerPatch.shape.decoder fun patch value => { patch with patch := value }]

def encode (patch : ConfigPatch) : Json :=
  .record <|
    Json.optionalMember "applyTo" .string patch.applyTo ++
    Json.optionalMember "match" id patch.selector ++
    Json.optionalMember "patch" ListenerPatch.encode patch.patch

/-- The filter chains of the listener that a config patch describes. -/
def filterChains (patch : ConfigPatch) : List Json :=
  (patch.patch.bind (·.value) >>= (·.member? "filter_chains") >>= Json.items?).getD []

end ConfigPatch

def chainFilters (chain : Json) : List Json :=
  (chain.member? "filters" >>= Json.items?).getD []

def isNamed (name : String) (filter : Json) : Bool :=
  (filter.member? "name" >>= Json.string?) == some name

/-- The part of a gateway filter object that is read. -/
structure EnvoyFilterSpec where
  workloadSelector : Option Json
  configPatches : List ConfigPatch

/-- Where a filter was found. -/
structure FilterLocation where
  /-- The position among the config patches. -/
  configPatch : Nat
  /-- The position among the filter chains of that patch. -/
  filterChain : Nat
  /-- The filter as it stands there. -/
  filter : Json

namespace EnvoyFilterSpec

def shape : Shape EnvoyFilterSpec where
  name := "EnvoyFilterSpec"
  strictness := .lenient
  blank := ⟨none, []⟩
  fields := [
    .optional "workloadSelector" .json fun spec value => { spec with workloadSelector := value },
    .defaulted "configPatches" (.list ConfigPatch.shape.decoder) fun spec value =>
      { spec with configPatches := value }]

def encode (spec : EnvoyFilterSpec) : Json :=
  .record <|
    Json.optionalMember "workloadSelector" id spec.workloadSelector ++
    [("configPatches", .array (spec.configPatches.map ConfigPatch.encode))]

/-- The first filter of a name, in the first filter chain that has one, of the
first config patch with such a chain. -/
def findFilter? (spec : EnvoyFilterSpec) (name : String) : Option FilterLocation :=
  spec.configPatches.zipIdx.findSome? fun (patch, configPatch) =>
    patch.filterChains.zipIdx.findSome? fun (chain, filterChain) =>
      ((chainFilters chain).find? (isNamed name)).map fun filter =>
        ⟨configPatch, filterChain, filter⟩

end EnvoyFilterSpec

/-- The way from a gateway filter object to the list that holds a found filter. -/
def FilterLocation.pointer (location : FilterLocation) : Pointer :=
  ⟨["spec", "configPatches", toString location.configPatch, "patch", "value", "filter_chains",
    toString location.filterChain, "filters"]⟩

end GatewayAcl.Kube
