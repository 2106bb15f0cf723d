import GatewayAcl.Proofs.Admission.Enforcement
import GatewayAcl.Proofs.Kube.ChainReplacement

/-!
# Admitting an object again

Objects are submitted again and again, each time in the form in which the last
admission has left them.  What the mutator sees of an object is its name and the
place of the filter that passes connections on, and a patch changes neither.  So
no mutator can tell how often an object has been patched, by whom, or whether it
has been at all.
-/

namespace GatewayAcl.Admission

open Kube Net
open Json (ReplacedAt)

/-- A request submits a value as an object, for anything but its deletion. -/
structure Request.Submits (request : Request) (json : Json) : Prop
    extends request.Brings fun object => SubmittedObject.decoder.ofJson json = .ok object

/-- What a mutator sees of a value: it is an object of a name, and the search for the
filter that passes connections on ends in a place. -/
def Sees (json : Json) (name : String) (location : FilterLocation) : Prop :=
  ∃ object part spec, SubmittedObject.decoder.ofJson json = .ok object ∧
    object.metadata.anyName = name ∧ object.spec = some part ∧
    EnvoyFilterSpec.shape.decoder.ofJson part = .ok spec ∧
    spec.findFilter? tcpProxyFilter = some location

/-- Some mutator admits a value with a patch, which makes it another value. -/
def Patches (json : Json) (patch : Patch) (json' : Json) : Prop :=
  ∃ (mutator : Mutator) (request : Request), request.Submits json ∧
    (mutator.mutate request).result = .ok (some patch) ∧ patch.applyTo? json = some json'

/-- A value goes through one admission or more, each by a mutator of its own, of which
the last one makes a patch. -/
inductive Readmissions : Json → Patch → Json → Prop where
  | first {json json' : Json} {patch : Patch} :
      Patches json patch json' → Readmissions json patch json'
  | again {json json' json'' : Json} {patch patch' : Patch} :
      Readmissions json patch json' → Patches json' patch' json'' →
        Readmissions json patch' json''

variable {json json' : Json} {name : String} {location : FilterLocation}

theorem Sees.unique {name' : String} {location' : FilterLocation}
    (sees : Sees json name location) (sees' : Sees json name' location') :
    name = name' ∧ location = location' := by
  obtain ⟨object, part, spec, decoded, rfl, hasSpec, decodedSpec, found⟩ := sees
  obtain ⟨_, _, _, decoded', rfl, hasSpec', decodedSpec', found'⟩ := sees'
  cases decoded.symm.trans decoded'
  cases hasSpec.symm.trans hasSpec'
  cases decodedSpec.symm.trans decodedSpec'
  exact ⟨rfl, Option.some.inj (found.symm.trans found')⟩

namespace Mutator

/-- An object's answer depends on its spec through the search only. -/
theorem splice_congr {spec spec' : EnvoyFilterSpec}
    (same : spec.findFilter? tcpProxyFilter = spec'.findFilter? tcpProxyFilter) :
    splice spec = splice spec' := by
  funext objectName guard
  rw [splice, splice, same]

theorem mutate_congr {mutator : Mutator} {request request' : Request}
    (submits : request.Submits json) (submits' : request'.Submits json')
    (sees : Sees json name location) (sees' : Sees json' name location) :
    mutator.mutate request = mutator.mutate request' := by
  obtain ⟨object, part, spec, decoded, named, hasSpec, decodedSpec, found⟩ := sees
  obtain ⟨object', part', spec', decoded', named', hasSpec', decodedSpec', found'⟩ := sees'
  obtain ⟨remains, _, holds, again⟩ := submits.toBrings
  obtain ⟨remains', _, holds', again'⟩ := submits'.toBrings
  cases decoded.symm.trans again
  cases decoded'.symm.trans again'
  have presents : request.Presents name spec :=
    ⟨remains, object, holds, ObjectMeta.isCalled_iff.mpr named, part, hasSpec, decodedSpec⟩
  have presents' : request'.Presents name spec' :=
    ⟨remains', object', holds', ObjectMeta.isCalled_iff.mpr named', part', hasSpec', decodedSpec'⟩
  have spliced : splice spec = splice spec' := splice_congr (found.trans found'.symm)
  have guarded : mutator.guardShoot name spec = mutator.guardShoot name spec' := by
    rw [guardShoot, guardShoot, spliced]
  rw [mutate_of_presents presents, mutate_of_presents presents', guarded]

end Mutator

theorem Patch.applyTo?_single (path : Pointer) (value json : Json) :
    (⟨[⟨path, value⟩]⟩ : Patch).applyTo? json = Json.replace? value path.steps json := by
  simp [Patch.applyTo?]

/-- The patch for a submitted value comes from its decoded spec: it puts an access filter
and the filter that was found in the place where that was found. -/
theorem Request.Submits.exists_location {mutator : Mutator} {request : Request} {patch : Patch}
    (submits : request.Submits json)
    (patched : (mutator.mutate request).result = .ok (some patch)) :
    ∃ object part spec location guard, SubmittedObject.decoder.ofJson json = .ok object ∧
      object.spec = some part ∧ EnvoyFilterSpec.shape.decoder.ofJson part = .ok spec ∧
      spec.findFilter? tcpProxyFilter = some location ∧
      patch = ⟨[⟨location.pointer, .array [(Guard.internal guard).encode, location.filter]⟩]⟩ := by
  have ⟨object, holds, decoded⟩ := submits.holds
  have ⟨_, part, spec, guard, same, hasSpec, decodedSpec, spliced⟩ :=
    Mutator.result_mutate_eq_some patched
  cases holds.symm.trans same
  have ⟨location, found, isPatch⟩ := Mutator.splice_eq_ok_iff.mp spliced
  exact ⟨object, part, spec, location, guard, decoded, hasSpec, decodedSpec, found, isPatch⟩

/-- The access filter is not one that passes connections on. -/
theorem isNamed_internal (guard : Guard) :
    isNamed tcpProxyFilter guard.internal.encode = false := by
  have named : guard.internal.encode.member? "name" =
      some (.string ("acl-internal-" ++ guard.rule.matcher.name)) := rfl
  rw [isNamed, named]
  cases guard.rule.matcher <;> decide

/-- After an admission the search finds the same filter again, behind the access
filter. -/
theorem find?_spliced {guard : Guard} {filter : Json}
    (named : isNamed tcpProxyFilter filter = true) :
    [guard.internal.encode, filter].find? (isNamed tcpProxyFilter) = some filter := by
  simp [isNamed_internal, named]

/-- What one or more admissions make of a value.  It differs from the value before in
the filters of the chain that the search finds, and those are now an access filter and
the filter that was found. -/
structure Settled (json : Json) (patch : Patch) (json' : Json) (name : String)
    (location : FilterLocation) (guard : Guard) (before : List Json) : Prop where
  sees : Sees json name location
  sees' : Sees json' name location
  canonical' : json'.Canonical
  patches : patch =
    ⟨[⟨location.pointer, .array [guard.internal.encode, location.filter]⟩]⟩
  replacedAt : ReplacedAt (.array before) (.array [guard.internal.encode, location.filter])
    location.pointer.steps json json'
  isFirst : before.find? (isNamed tcpProxyFilter) = some location.filter

/-- One admission settles a value. -/
theorem Patches.settled {patch : Patch} (patched : Patches json patch json')
    (canonical : json.Canonical) :
    ∃ name location guard before, Settled json patch json' name location guard before := by
  obtain ⟨mutator, request, submits, admitted, applied⟩ := patched
  obtain ⟨object, part, spec, location, guard, decoded, hasSpec, decodedSpec, found, rfl⟩ :=
    submits.exists_location admitted
  have made := applied
  rw [Patch.applyTo?_single] at made
  obtain ⟨old, replacedAt⟩ := Json.replace?_eq_some_iff.mp made
  obtain ⟨⟨before, rfl, isFirst⟩, readAgain⟩ := SubmittedObject.decoder_replacedAt canonical
    decoded hasSpec decodedSpec found replacedAt
  have canonicalFilter : location.filter.Canonical :=
    (replacedAt.canonical_old canonical).item _ (List.mem_of_find?_eq_some isFirst)
  have canonicalFilters :
      (Json.array [guard.internal.encode, location.filter]).Canonical := by
    refine .array _ (List.forall_mem_cons.mpr ⟨Rbac.Filter.canonical_encode _, ?_⟩)
    simpa using canonicalFilter
  have named : isNamed tcpProxyFilter location.filter = true := List.find?_some isFirst
  obtain ⟨part', spec', decoded', decodedSpec', found'⟩ :=
    readAgain canonicalFilters (find?_spliced named)
  refine ⟨object.metadata.anyName, location, guard, before, ?_, ?_, ?_, rfl, replacedAt, isFirst⟩
  · exact ⟨object, part, spec, decoded, rfl, hasSpec, decodedSpec, found⟩
  · exact ⟨_, part', spec', decoded', rfl, rfl, decodedSpec', found'⟩
  · exact replacedAt.canonical canonicalFilters canonical

/-- Any number of admissions settles a value. -/
theorem Readmissions.settled {patch : Patch} (run : Readmissions json patch json')
    (canonical : json.Canonical) :
    ∃ name location guard before, Settled json patch json' name location guard before := by
  induction run with
  | first patched => exact patched.settled canonical
  | again _ patched ih =>
      obtain ⟨name, location, guard, before, settled⟩ := ih
      obtain ⟨name', location', guard', before', settled'⟩ := patched.settled settled.canonical'
      obtain ⟨rfl, rfl⟩ := settled.sees'.unique settled'.sees
      cases settled.replacedAt.follow?_new.symm.trans settled'.replacedAt.follow?_old
      exact ⟨name, location, guard', before, settled.sees, settled'.sees', settled'.canonical',
        settled'.patches, settled.replacedAt.trans settled'.replacedAt, settled.isFirst⟩

theorem Settled.applyTo?_again {patch : Patch} {guard : Guard} {before : List Json}
    (settled : Settled json patch json' name location guard before) :
    patch.applyTo? json' = some json' := by
  have again := Json.replace?_eq_some_iff.mpr ⟨_, settled.replacedAt.refl_right⟩
  rw [settled.patches]
  simp [Patch.applyTo?, again]

theorem Settled.mutate_eq {patch : Patch} {guard : Guard} {before : List Json}
    (settled : Settled json patch json' name location guard before) (mutator : Mutator)
    {request request' : Request} (submits : request.Submits json)
    (submits' : request'.Submits json') : mutator.mutate request' = mutator.mutate request :=
  Mutator.mutate_congr submits' submits settled.sees' settled.sees

/-- Whoever would have patched a value can patch what has become of it. -/
theorem Settled.exists_patches {patch patch' : Patch} {guard : Guard} {before : List Json}
    (settled : Settled json patch json' name location guard before) {mutator : Mutator}
    {request : Request} (submits : request.Submits json)
    (patched : (mutator.mutate request).result = .ok (some patch')) :
    ∃ json'', Patches json' patch' json'' := by
  have ⟨object', _, _, decoded', _⟩ := settled.sees'
  have submits' : { request with object := some object' }.Submits json' :=
    ⟨submits.remains, object', rfl, decoded'⟩
  have patched' : (mutator.mutate { request with object := some object' }).result =
      .ok (some patch') := by
    rw [settled.mutate_eq mutator submits submits', patched]
  obtain ⟨object, part, spec, location', guard', decoded, hasSpec, decodedSpec, found, rfl⟩ :=
    submits'.exists_location patched'
  have same := settled.sees'.unique ⟨object, part, spec, decoded, rfl, hasSpec, decodedSpec, found⟩
  cases same.2
  have ⟨json'', made⟩ :=
    Json.exists_replacedAt (.array [guard'.internal.encode, location.filter])
      settled.replacedAt.follow?_new
  refine ⟨json'', mutator, _, submits', patched', ?_⟩
  rw [Patch.applyTo?_single]
  exact Json.replace?_eq_some_iff.mpr ⟨_, made⟩

/-- Admitting an object again and again is independent of its history.  After one or
more admissions with patches, by whichever mutators, it is the object from before
except for the chain that holds the first filter which passes connections on.  That
chain consists of the last access filter and this filter, and no mutator answers
otherwise than it would have before.  Making the last patch again changes nothing. -/
theorem mutate_readmitted {patch : Patch} (canonical : json.Canonical)
    (run : Readmissions json patch json') :
    ∃ (object : SubmittedObject) (part : Json) (spec : EnvoyFilterSpec)
      (location : FilterLocation) (guard : Guard) (before : List Json),
      SubmittedObject.decoder.ofJson json = .ok object ∧ object.spec = some part ∧
      EnvoyFilterSpec.shape.decoder.ofJson part = .ok spec ∧
      spec.findFilter? "envoy.filters.network.tcp_proxy" = some location ∧
      spec.filters.find? (isNamed "envoy.filters.network.tcp_proxy") = some location.filter ∧
      patch = ⟨[⟨location.pointer, .array [guard.internal.encode, location.filter]⟩]⟩ ∧
      Json.follow? location.pointer.steps json = some (.array before) ∧
      Json.follow? location.pointer.steps json' =
        some (.array [guard.internal.encode, location.filter]) ∧
      Json.replace? (.array before) location.pointer.steps json' = some json ∧
      patch.applyTo? json' = some json' ∧
      (∃ object', SubmittedObject.decoder.ofJson json' = .ok object') ∧
      ∀ (mutator : Mutator) (request request' : Request), request.Submits json →
        request'.Submits json' → mutator.mutate request' = mutator.mutate request := by
  obtain ⟨name, location, guard, before, settled⟩ := run.settled canonical
  obtain ⟨object, part, spec, decoded, _, hasSpec, decodedSpec, found⟩ := settled.sees
  obtain ⟨object', _, _, decoded', _⟩ := settled.sees'
  have first := spec.map_filter_findFilter? tcpProxyFilter
  rw [found] at first
  refine ⟨object, part, spec, location, guard, before, decoded, hasSpec, decodedSpec, found,
    first.symm, settled.patches, settled.replacedAt.follow?_old, settled.replacedAt.follow?_new,
    Json.replace?_eq_some_iff.mpr ⟨_, settled.replacedAt.symm⟩, settled.applyTo?_again,
    ⟨object', decoded'⟩, ?_⟩
  intro mutator request request' submits submits'
  exact settled.mutate_eq mutator submits submits'

namespace Demo

/-- The object of the shoot with an access filter that has been left from before. -/
def staleObject : Json :=
  .object [
    ("metadata", .object [("name", .string "shoot--local--demo")]),
    ("spec", .object [("configPatches", .array [.object [("patch", .object [
      ("value", .object [("filter_chains", .array [.object [("filters", .array [
        .object [("name", .string "acl-internal-remote_ip")],
        .object [("name", .string tcpProxyFilter)]])]])])])]])])]

def staleRequest : Request :=
  .blank .create (SubmittedObject.decoder.ofJson staleObject).toOption

/-- The extension of the shoot with another rule. -/
def changedExtension : Extension where
  metadata := {}
  spec := {
    extensionType := "acl"
    providerConfig := some (.object [("rule", .object [
      ("action", .string "ALLOW"), ("cidrs", .array [.string "192.0.2.0/24"]),
      ("type", .string "remote_ip")])]) }

/-- A mutator that finds this extension and exempts a network of its own. -/
def changedMutator : Mutator :=
  { mutator with
    lookup := { mutator.lookup with extension := fun _ _ => .now (.ok (some changedExtension)) }
    alwaysAllowed := [.v4 0x0a010000#32 ⟨16, by decide⟩] }

end Demo

/-- Two mutators that find different rules patch an object one after the other.  It ends up
with the access filter of the second, and the first one sees the object it has always seen. -/
theorem mutate_readmitted_demo :
    ∃ patch patch' json json' location acl, Demo.staleObject.Canonical ∧
      (Demo.mutator.mutate Demo.staleRequest).result = .ok (some patch) ∧
      (Demo.changedMutator.mutate Demo.staleRequest).result = .ok (some patch') ∧
      Patches Demo.staleObject patch json ∧ Patches json patch' json' ∧
      patch' = ⟨[⟨FilterLocation.pointer location, .array [acl, location.filter]⟩]⟩ ∧
      Json.follow? location.pointer.steps json' = some (.array [acl, location.filter]) ∧
      ∀ request : Request, request.Submits json' →
        Demo.mutator.mutate request = Demo.mutator.mutate Demo.staleRequest := by
  have read : Demo.staleObject.toDocument.toJson = .ok Demo.staleObject := rfl
  have canonical := Document.canonical_of_toJson read
  have submits : Demo.staleRequest.Submits Demo.staleObject := ⟨by decide, _, rfl, rfl⟩
  have ⟨patch, json, patched, made⟩ :
      ∃ patch json, (Demo.mutator.mutate Demo.staleRequest).result = .ok (some patch) ∧
        patch.applyTo? Demo.staleObject = some json := ⟨_, _, rfl, rfl⟩
  have ⟨patch', patched'⟩ :
      ∃ patch, (Demo.changedMutator.mutate Demo.staleRequest).result = .ok (some patch) :=
    ⟨_, rfl⟩
  have first : Patches Demo.staleObject patch json := ⟨_, _, submits, patched, made⟩
  obtain ⟨_, _, _, _, settled⟩ := first.settled canonical
  have ⟨json', second⟩ := settled.exists_patches submits patched'
  obtain ⟨_, _, _, location, _, _, _, _, _, _, _, isPatch, _, leads, _, _, _, answers⟩ :=
    mutate_readmitted canonical (.again (.first first) second)
  exact ⟨patch, patch', json, json', location, _, canonical, patched, patched', first, second,
    isPatch, leads, fun request submits' => answers _ _ request submits submits'⟩

end GatewayAcl.Admission
