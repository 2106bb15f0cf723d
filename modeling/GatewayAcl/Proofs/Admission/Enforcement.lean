import GatewayAcl.Proofs.Admission.ExemptNetworks
import GatewayAcl.Proofs.Admission.FailClosed
import GatewayAcl.Proofs.Fragment.Enforcement
import GatewayAcl.Proofs.Kube.FilterSearch
import GatewayAcl.Proofs.Rbac.WireFormat

/-!
# Enforcing a shoot's rule

What becomes of an object whose shoot asks for a rule: it is admitted with a patch
if everything that the patch is made of is known, and rejected otherwise, in a way
that does not blame the rule.  The patch puts an access filter into the object, and
that filter permits the exempt networks and what the rule admits.
-/

namespace GatewayAcl.Admission

open Kube Net

/-- A failure, if there is one, is not the fault of the submitted rule. -/
def FailsElsewhere {α : Type} (result : Except Rejection α) : Prop :=
  ∀ rejection, result = .error rejection → rejection.code = 500

namespace FailsElsewhere

variable {α β ε : Type}

theorem ok (value : α) : FailsElsewhere (.ok value : Except Rejection α) := by
  intro rejection failed
  cases failed

theorem error {rejection : Rejection} (code : rejection.code = 500) :
    FailsElsewhere (.error rejection : Except Rejection α) := by
  intro other failed
  cases failed
  exact code

theorem mapError {result : Except ε α} {image : ε → Rejection}
    (code : ∀ cause, (image cause).code = 500) : FailsElsewhere (result.mapError image) := by
  cases result with
  | error cause => exact .error (code cause)
  | ok value => exact .ok value

theorem bind {result : Except Rejection α} {next : α → Except Rejection β}
    (first : FailsElsewhere result) (second : ∀ value, FailsElsewhere (next value)) :
    FailsElsewhere (result >>= next) := by
  cases result with
  | error rejection => exact .error (first rejection rfl)
  | ok value => exact second value

end FailsElsewhere

namespace Mutator

variable {mutator : Mutator} {request : Request} {name : String} {spec : EnvoyFilterSpec}
  {rule : Rule}

theorem failsElsewhere_shootNetworks (namespaceName : String) (shoot : Shoot) :
    FailsElsewhere (mutator.shootNetworks namespaceName shoot).result := by
  unfold shootNetworks
  split
  · exact .ok _
  · simp only [Inquiry.result_bind, Inquiry.result_ofResult, Inquiry.result_pure]
    refine .bind ?_ fun own => .bind ?_ fun shootName => .bind ?_ fun infrastructure =>
      .bind ?_ fun provider => .ok _
    · unfold ownNetworks
      split
      · exact .ok _
      · exact .mapError fun _ => rfl
    · unfold Mutator.shootName
      split
      · exact .error rfl
      · exact .ok _
    · exact .mapError fun _ => rfl
    · exact .mapError fun _ => rfl

theorem failsElsewhere_exemptNetworks (namespaceName : String) :
    FailsElsewhere (mutator.exemptNetworks namespaceName).result := by
  simp only [exemptNetworks, Inquiry.result_bind, Inquiry.result_ofResult, Inquiry.result_pure]
  refine .bind (.mapError fun _ => rfl) fun cluster => .bind (.mapError fun _ => rfl) fun seed =>
    .bind (failsElsewhere_shootNetworks namespaceName cluster.spec.shoot) fun shoot => .ok _

theorem failsElsewhere_splice (guard : Guard) : FailsElsewhere (splice spec name guard) := by
  unfold splice
  split
  · exact .error rfl
  · exact .ok _

/-- A request makes a mutator consult an extension: it submits an object of that name with
a spec, which belongs to a shoot, and the lookup of the shoot's extension yields this
one. -/
structure Consults (mutator : Mutator) (request : Request) (name : String)
    (spec : EnvoyFilterSpec) (extension : Extension) : Prop
    extends request.Presents name spec where
  belongs : "shoot--".toList <+: name.toList
  yields : (mutator.lookup.extension name "acl").Yields mutator.timeout (some extension)

/-- Where an extension is consulted, the answer comes from the rule that it asks for. -/
theorem Consults.result_mutate {extension : Extension}
    (consults : mutator.Consults request name spec extension) :
    (mutator.mutate request).result =
      extension.rule? >>= fun rule? =>
        match rule? with
        | none => .ok none
        | some rule =>
            (mutator.exemptNetworks name).result >>= fun exempt =>
              splice spec name ⟨rule, exempt⟩ >>= fun patch => .ok (some patch) := by
  have found : (mutator.findExtension name).result = .ok (some extension) :=
    result_ask_eq_ok_iff.mpr consults.yields
  rw [mutate_of_presents consults.toPresents,
    if_pos ((belongsToShoot_iff name).mpr consults.belongs), guardShoot, Inquiry.result_bind,
    found]
  simp only [except_bind_ok, Inquiry.result_bind, Inquiry.result_ofResult]
  congr 1
  funext rule?
  cases rule? with
  | none => rfl
  | some rule =>
      simp only [Inquiry.result_bind, Inquiry.result_ofResult, Inquiry.result_pure]

/-- A request is in scope of a rule: it submits an object of that name with a spec,
which belongs to a shoot, and the shoot's extension asks for the rule. -/
structure InScope (mutator : Mutator) (request : Request) (name : String)
    (spec : EnvoyFilterSpec) (rule : Rule) : Prop extends request.Presents name spec where
  belongs : "shoot--".toList <+: name.toList
  asks : ∃ extension, (mutator.lookup.extension name "acl").Yields mutator.timeout
    (some extension) ∧ extension.AsksFor rule

/-- In scope of a rule, what is left to do is to collect the exempt networks and to
splice the guard in. -/
theorem InScope.result_mutate (inScope : mutator.InScope request name spec rule) :
    (mutator.mutate request).result =
      (mutator.exemptNetworks name).result >>= fun exempt =>
        splice spec name ⟨rule, exempt⟩ >>= fun patch => .ok (some patch) := by
  have ⟨extension, yields, asks⟩ := inScope.asks
  have consults : mutator.Consults request name spec extension :=
    ⟨inScope.toPresents, inScope.belongs, yields⟩
  rw [consults.result_mutate, (extension.rule?_eq_some_iff rule).mpr asks, except_bind_ok]

/-- The search finds a place exactly if the object holds a filter of the name. -/
theorem exists_findFilter?_iff {wanted : String} :
    (∃ location, spec.findFilter? wanted = some location) ↔
      ∃ filter ∈ spec.filters, isNamed wanted filter = true := by
  rw [← Option.isSome_iff_exists, ← Option.isSome_map, spec.map_filter_findFilter?,
    List.find?_isSome]

/-- In scope of a rule, a request is admitted with a patch exactly if the exempt
networks can be collected and the guard can be spliced in. -/
theorem InScope.result_eq_some_iff (inScope : mutator.InScope request name spec rule)
    {patch : Patch} :
    (mutator.mutate request).result = .ok (some patch) ↔
      ∃ exempt location, (mutator.exemptNetworks name).result = .ok exempt ∧
        spec.findFilter? tcpProxyFilter = some location ∧
        patch = ⟨[⟨location.pointer,
          .array [(Guard.internal ⟨rule, exempt⟩).encode, location.filter]⟩]⟩ := by
  simp only [inScope.result_mutate, except_bind_eq_ok_iff, splice_eq_ok_iff]
  constructor
  · rintro ⟨exempt, collected, _, ⟨location, found, isPatch⟩, same⟩
    cases same
    exact ⟨exempt, location, collected, found, isPatch⟩
  · rintro ⟨exempt, location, collected, found, isPatch⟩
    exact ⟨exempt, collected, patch, ⟨location, found, isPatch⟩, rfl⟩

/-- What a patch puts in front of the filter that passes connections on reads back as
an access filter, which permits what the rule admits and the exempt networks. -/
theorem InScope.permits_of_collected {cluster : Cluster} {exempt : List Network}
    (yields : (mutator.lookup.cluster name).Yields mutator.timeout cluster)
    (collected : (mutator.exemptNetworks name).result = .ok exempt) :
    ∃ filter, Rbac.Filter.shape.decoder.ofJson (Guard.internal ⟨rule, exempt⟩).encode =
        .ok filter ∧
      ∀ connection : Rbac.Request, filter.permits connection = true ↔
        rule.Admits (connection.address rule.matcher) ∨
          ∃ network, mutator.Exempt name cluster network ∧
            connection.address rule.matcher ∈ network := by
  refine ⟨_, Rbac.Filter.decoder_encode _, fun connection => ?_⟩
  rw [Guard.permits_networkFilter, Guard.Admits]
  simp only [mem_exemptNetworks_iff yields collected]

/-- In scope of a rule, there is a patch exactly if the exempt networks can be told and
the object holds a filter that passes connections on. -/
theorem InScope.exists_patch_iff (inScope : mutator.InScope request name spec rule) :
    (∃ patch, (mutator.mutate request).result = .ok (some patch)) ↔
      (∃ cluster, (mutator.lookup.cluster name).Yields mutator.timeout cluster ∧
        mutator.Prepared name cluster) ∧
      ∃ filter ∈ spec.filters, isNamed tcpProxyFilter filter = true := by
  rw [← exists_exemptNetworks_iff, ← exists_findFilter?_iff]
  simp only [inScope.result_eq_some_iff]
  constructor
  · rintro ⟨_, exempt, location, collected, found, _⟩
    exact ⟨⟨exempt, collected⟩, location, found⟩
  · rintro ⟨⟨exempt, collected⟩, location, found⟩
    exact ⟨_, exempt, location, collected, found, rfl⟩

theorem InScope.failsElsewhere (inScope : mutator.InScope request name spec rule) :
    FailsElsewhere (mutator.mutate request).result := by
  rw [inScope.result_mutate]
  apply FailsElsewhere.bind (failsElsewhere_exemptNetworks name)
  intro exempt
  apply FailsElsewhere.bind (failsElsewhere_splice _)
  intro patch
  exact .ok (some patch)

/-- In scope of a rule, no request is admitted as it is. -/
theorem InScope.result_ne_none (inScope : mutator.InScope request name spec rule) :
    (mutator.mutate request).result ≠ .ok none := by
  have compiled := mutator.result_compile_ne_none name spec rule
  rw [inScope.result_mutate]
  simpa only [Inquiry.result_bind, Inquiry.result_ofResult, Inquiry.result_pure] using compiled

theorem InScope.patch_or_rejection (inScope : mutator.InScope request name spec rule) :
    (∃ patch, (mutator.mutate request).result = .ok (some patch)) ∨
      ∃ rejection, (mutator.mutate request).result = .error rejection ∧ rejection.code = 500 := by
  have notAdmitted := inScope.result_ne_none
  cases answered : (mutator.mutate request).result with
  | error rejection => exact .inr ⟨rejection, rfl, inScope.failsElsewhere rejection answered⟩
  | ok patch? =>
      cases patch? with
      | none => exact absurd answered notAdmitted
      | some patch => exact .inl ⟨patch, rfl⟩

/-- In scope of a rule, a patch replaces one chain, and its access filter permits what
the rule admits and the exempt networks. -/
theorem InScope.enforces (inScope : mutator.InScope request name spec rule) {patch : Patch}
    (patched : (mutator.mutate request).result = .ok (some patch)) :
    ∃ cluster location acl filter,
      (mutator.lookup.cluster name).Yields mutator.timeout cluster ∧
      spec.findFilter? tcpProxyFilter = some location ∧
      spec.filters.find? (isNamed tcpProxyFilter) = some location.filter ∧
      patch = ⟨[⟨location.pointer, .array [acl, location.filter]⟩]⟩ ∧
      Rbac.Filter.shape.decoder.ofJson acl = .ok filter ∧
      ∀ connection : Rbac.Request, filter.permits connection = true ↔
        rule.Admits (connection.address rule.matcher) ∨
          ∃ network, mutator.Exempt name cluster network ∧
            connection.address rule.matcher ∈ network := by
  obtain ⟨exempt, location, collected, found, rfl⟩ := inScope.result_eq_some_iff.mp patched
  obtain ⟨cluster, _, _, yields, _⟩ := result_exemptNetworks_eq_ok_iff.mp collected
  obtain ⟨filter, read, permits⟩ := InScope.permits_of_collected yields collected
  have first := spec.map_filter_findFilter? tcpProxyFilter
  rw [found] at first
  exact ⟨cluster, location, _, filter, yields, found, first.symm, rfl, read, permits⟩

/-- A rule is enforced from end to end.  In its scope there is a patch exactly if the
cluster is known and prepared and the object holds a filter that passes connections
on; otherwise there is a rejection that does not blame the rule.  The patch replaces
one chain by an access filter and the first of those filters, and the access filter,
read back from its JSON, permits what the rule admits and the exempt networks. -/
theorem result_mutate_enforces (inScope : mutator.InScope request name spec rule) :
    ((∃ patch, (mutator.mutate request).result = .ok (some patch)) ↔
      (∃ cluster, (mutator.lookup.cluster name).Yields mutator.timeout cluster ∧
        mutator.Prepared name cluster) ∧
      ∃ filter ∈ spec.filters, isNamed "envoy.filters.network.tcp_proxy" filter = true) ∧
    ((∃ patch, (mutator.mutate request).result = .ok (some patch)) ∨
      ∃ rejection, (mutator.mutate request).result = .error rejection ∧ rejection.code = 500) ∧
    ∀ patch, (mutator.mutate request).result = .ok (some patch) →
      ∃ cluster location acl filter,
        (mutator.lookup.cluster name).Yields mutator.timeout cluster ∧
        spec.findFilter? "envoy.filters.network.tcp_proxy" = some location ∧
        spec.filters.find? (isNamed "envoy.filters.network.tcp_proxy") = some location.filter ∧
        patch = ⟨[⟨location.pointer, .array [acl, location.filter]⟩]⟩ ∧
        Rbac.Filter.shape.decoder.ofJson acl = .ok filter ∧
        ∀ connection : Rbac.Request, filter.permits connection = true ↔
          rule.Admits (connection.address rule.matcher) ∨
            ∃ network, mutator.Exempt name cluster network ∧
              connection.address rule.matcher ∈ network := by
  refine ⟨?_, ?_, ?_⟩
  · exact inScope.exists_patch_iff
  · exact inScope.patch_or_rejection
  · intro patch patched
    exact inScope.enforces patched

end Mutator

namespace Demo

/-- A chain that only passes connections on. -/
def chain : Json :=
  .object [("filters", .array [.object [("name", .string tcpProxyFilter)]])]

/-- A patch of a listener with that chain. -/
def listener : Json :=
  .object [("filter_chains", .array [chain])]

/-- An object of a shoot. -/
def object : Json :=
  .object [
    ("metadata", .object [("name", .string "shoot--local--demo")]),
    ("spec", .object [
      ("configPatches", .array [.object [("patch", .object [("value", listener)])]])])]

def spec : EnvoyFilterSpec :=
  ⟨none, [⟨none, none, some ⟨none, some listener⟩⟩]⟩

/-- The extension of the shoot. -/
def extension : Extension where
  metadata := {}
  spec := {
    extensionType := "acl"
    providerConfig := some (.object [("rule", .object [
      ("action", .string "DENY"), ("cidrs", .array [.string "10.0.0.0/8"]),
      ("type", .string "source_ip")])]) }

def rule : Rule := ⟨.deny, .sourceIp, [.v4 0x0a000000#32 ⟨8, by decide⟩]⟩

def cluster : Cluster where
  metadata := {}
  spec := {
    seed := { spec := { networks := { nodes := some "10.10.0.0/16" } } }
    shoot := {
      metadata := { name := some "demo" }
      spec := {
        networking := some { pods := some "2001:db8::/32" }
        provider := { workers := [.null] } } } }

/-- A mutator that finds all of these. -/
def mutator : Mutator where
  lookup := {
    extension := fun _ _ => .now (.ok (some extension))
    cluster := fun _ => .now (.ok cluster)
    infrastructure := fun _ _ => .now (.ok ⟨{}, ⟨"local"⟩, none⟩) }
  registry := .standard
  alwaysAllowed := []
  timeout := ⟨0⟩

def request : Request :=
  .blank .create (SubmittedObject.decoder.ofJson object).toOption

theorem yields_now {α : Type} (value : α) : (Outcome.now (.ok value)).Yields ⟨0⟩ value :=
  ⟨⟨0⟩, rfl, by decide⟩

theorem inScope : mutator.InScope request "shoot--local--demo" spec rule where
  remains := by decide
  holds := ⟨_, rfl, .named rfl, _, rfl, rfl⟩
  belongs := by decide
  asks := ⟨extension, yields_now _, rfl, rfl, _, ⟨"DENY", "source_ip", ["10.0.0.0/8"]⟩, rfl,
    rfl, rfl⟩

theorem prepared : mutator.Prepared "shoot--local--demo" cluster where
  seed := by
    intro text member
    cases List.mem_singleton.mp member
    exact ⟨.v4 0x0a0a0000#32 ⟨16, by decide⟩, rfl⟩
  shoot := by
    intro _ text member
    cases List.mem_singleton.mp member
    exact ⟨.v6 0x20010db8000000000000000000000000#128 ⟨32, by decide⟩, rfl⟩
  provider := fun _ => ⟨[], "demo", _, rfl, yields_now _, rfl⟩

end Demo

/-- The shoot's rule is enforced in the object: there is a patch for it. -/
theorem Mutator.result_mutate_enforces_demo :
    Demo.mutator.InScope Demo.request "shoot--local--demo" Demo.spec Demo.rule ∧
      ∃ patch, (Demo.mutator.mutate Demo.request).result = .ok (some patch) :=
  ⟨Demo.inScope, (Mutator.result_mutate_enforces Demo.inScope).1.mpr
    ⟨⟨Demo.cluster, Demo.yields_now _, Demo.prepared⟩, _, List.mem_singleton_self _, rfl⟩⟩

end GatewayAcl.Admission
