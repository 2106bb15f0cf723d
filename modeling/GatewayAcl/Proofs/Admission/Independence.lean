import GatewayAcl.Proofs.Admission.Enforcement

/-!
# Independence of unrelated objects

What the answer to a request does not depend on.  Two runs of the mutator are compared
stage by stage.  As long as one stage has read alike objects, the next one asks the same
question, and a stage that reads nothing asks for no likeness.  So the objects of one
shoot have no bearing on another one, and what is not reached has no bearing at all.
-/

namespace GatewayAcl

open Kube Net

/-- Two results are the same error, or values that are alike. -/
inductive ResultsAlike {ε α : Type} (alike : α → α → Prop) : Except ε α → Except ε α → Prop where
  | error (error : ε) : ResultsAlike alike (.error error) (.error error)
  | ok {left right : α} : alike left right → ResultsAlike alike (.ok left) (.ok right)

namespace ResultsAlike

variable {ε ε' α : Type} {alike : α → α → Prop} {left right : Except ε α}

theorem of_eq (same : left = right) (reflexive : ∀ value, left = .ok value → alike value value) :
    ResultsAlike alike left right := by
  cases same
  cases left with
  | error error => exact .error error
  | ok value => exact .ok (reflexive value rfl)

theorem mapError (results : ResultsAlike alike left right) (image : ε → ε') :
    ResultsAlike alike (left.mapError image) (right.mapError image) := by
  cases results with
  | error error => exact .error (image error)
  | ok values => exact .ok values

end ResultsAlike

namespace Outcome

variable {α : Type} {bound : Duration} {left right : Outcome α}

/-- Two lookups agree: within a bound they come to the same. -/
def Agree (bound : Duration) (left right : Outcome α) : Prop :=
  left.within bound = right.within bound

theorem alike_of_yields {alike : α → α → Prop} {value value' : α}
    (yields : left.Yields bound value) (yields' : right.Yields bound value')
    (values : alike value value') :
    ResultsAlike alike (left.within bound) (right.within bound) := by
  rw [within_eq_ok_iff.mpr yields, within_eq_ok_iff.mpr yields']
  exact .ok values

end Outcome

namespace Admission

/-- Two inquiries have asked the same questions and come to alike results. -/
structure InquiriesAlike {α : Type} (alike : α → α → Prop) (left right : Inquiry α) : Prop where
  queries : left.queries = right.queries
  results : ResultsAlike alike left.result right.result

namespace InquiriesAlike

variable {α β : Type} {alike : α → α → Prop}

/-- One question with alike outcomes is asked alike. -/
theorem ask {bound : Duration} {left right : Outcome α} (query : Query)
    (outcomes : ResultsAlike alike (left.within bound) (right.within bound)) :
    InquiriesAlike alike (.ask bound query left) (.ask bound query right) where
  queries := rfl
  results := outcomes.mapError Rejection.lookup

/-- Alike inquiries that go on in the same way are the same inquiry. -/
theorem bind {left right : Inquiry α} {next next' : α → Inquiry β}
    (inquiries : InquiriesAlike alike left right)
    (goOn : ∀ value value', alike value value' → next value = next' value') :
    (left >>= next) = (right >>= next') := by
  have ⟨queries, results⟩ := inquiries
  cases left with
  | mk asked result =>
      cases right with
      | mk asked' result' =>
          cases queries
          cases results with
          | error rejection => rfl
          | ok values => simp only [Bind.bind, goOn _ _ values]

/-- One inquiry that goes on in the same way from its value is the same inquiry. -/
theorem bind_same {inquiry : Inquiry α} {next next' : α → Inquiry β}
    (goOn : ∀ value, inquiry.result = .ok value → next value = next' value) :
    (inquiry >>= next) = (inquiry >>= next') := by
  have same : InquiriesAlike (fun left right => left = right ∧ inquiry.result = .ok left)
      inquiry inquiry :=
    ⟨rfl, .of_eq rfl fun _ isValue => ⟨rfl, isValue⟩⟩
  apply same.bind
  intro value _ isValue
  cases isValue.1
  exact goOn value isValue.2

end InquiriesAlike

namespace Mutator

/-! ## Objects that are alike to a mutator -/

/-- Infrastructures are alike to a registry if they are of one type and, where the type
is registered, report the same. -/
structure InfrastructuresAlike (registry : Registry) (left right : Infrastructure) : Prop where
  sameType : left.spec.providerType = right.spec.providerType
  sameStatus : registry.isRegistered left.spec.providerType = true →
    left.providerStatus? = right.providerStatus?

/-- Shoots are alike if both have no workers, or both have some, the same networks, the
same name and, under that name, alike infrastructures. -/
structure ShootsAlike (mutator : Mutator) (lookup : Lookup) (namespaceName : String)
    (left right : Shoot) : Prop where
  sameWorkers : left.HasWorkers ↔ right.HasWorkers
  sameNetworking : left.HasWorkers → left.spec.networking = right.spec.networking
  sameName : left.HasWorkers → left.metadata.name = right.metadata.name
  infrastructures : left.HasWorkers → ∀ name, left.metadata.name = some name →
    ResultsAlike (InfrastructuresAlike mutator.registry)
      ((mutator.lookup.infrastructure namespaceName name).within mutator.timeout)
      ((lookup.infrastructure namespaceName name).within mutator.timeout)

/-- Clusters are alike if their seeds have the same networks and their shoots are
alike. -/
structure ClustersAlike (mutator : Mutator) (lookup : Lookup) (namespaceName : String)
    (left right : Cluster) : Prop where
  sameSeed : left.spec.seed.spec.networks = right.spec.seed.spec.networks
  shoots : mutator.ShootsAlike lookup namespaceName left.spec.shoot right.spec.shoot

variable {mutator : Mutator} {lookup : Lookup} {namespaceName : String}

theorem InfrastructuresAlike.refl (registry : Registry) (infrastructure : Infrastructure) :
    InfrastructuresAlike registry infrastructure infrastructure :=
  ⟨rfl, fun _ => rfl⟩

theorem InfrastructuresAlike.of_unregistered {registry : Registry} {left right : Infrastructure}
    (sameType : left.spec.providerType = right.spec.providerType)
    (unregistered : registry.isRegistered left.spec.providerType = false) :
    InfrastructuresAlike registry left right where
  sameType := sameType
  sameStatus registered := by
    rw [unregistered] at registered
    cases registered

theorem ShootsAlike.of_workerless {left right : Shoot} (workerless : ¬ left.HasWorkers)
    (workerless' : ¬ right.HasWorkers) :
    mutator.ShootsAlike lookup namespaceName left right where
  sameWorkers := iff_of_false workerless workerless'
  sameNetworking workers := absurd workers workerless
  sameName workers := absurd workers workerless
  infrastructures workers := absurd workers workerless

theorem ClustersAlike.of_infrastructures {cluster : Cluster}
    (infrastructures : ∀ name, cluster.spec.shoot.metadata.name = some name →
      ResultsAlike (InfrastructuresAlike mutator.registry)
        ((mutator.lookup.infrastructure namespaceName name).within mutator.timeout)
        ((lookup.infrastructure namespaceName name).within mutator.timeout)) :
    mutator.ClustersAlike lookup namespaceName cluster cluster where
  sameSeed := rfl
  shoots := ⟨Iff.rfl, fun _ => rfl, fun _ => rfl, fun _ => infrastructures⟩

/-! ## Stages that read alike objects -/

/-- What a provider adds depends on the status only if the provider is registered. -/
theorem providerNetworks_congr {left right : Infrastructure}
    (alike : InfrastructuresAlike mutator.registry left right) :
    mutator.providerNetworks left = mutator.providerNetworks right := by
  rw [providerNetworks, providerNetworks, ← alike.sameType]
  cases registered : mutator.registry.isRegistered left.spec.providerType with
  | true => rw [alike.sameStatus registered]
  | false =>
      have unknown : mutator.registry.extraction? left.spec.providerType = none := by
        simpa [Registry.isRegistered] using registered
      simp only [Registry.allowedNetworks, unknown]

/-- Of a shoot without workers, nothing else is read. -/
theorem shootNetworks_congr {shoot shoot' : Shoot}
    (alike : mutator.ShootsAlike lookup namespaceName shoot shoot') :
    mutator.shootNetworks namespaceName shoot =
      { mutator with lookup := lookup }.shootNetworks namespaceName shoot' := by
  by_cases workers : shoot.HasWorkers
  · have workers' : shoot'.HasWorkers := alike.sameWorkers.mp workers
    have own : ownNetworks shoot = ownNetworks shoot' := by
      rw [ownNetworks, ownNetworks, alike.sameNetworking workers]
    have named : shootName namespaceName shoot = shootName namespaceName shoot' := by
      rw [shootName, shootName, Shoot.name?, Shoot.name?, alike.sameName workers]
    rw [shootNetworks, shootNetworks, if_neg (mt Shoot.isWorkerless_iff.mp (not_not_intro workers)),
      if_neg (mt Shoot.isWorkerless_iff.mp (not_not_intro workers')), ← own, ← named]
    apply InquiriesAlike.bind_same
    intro own _
    apply InquiriesAlike.bind_same
    intro name isName
    have infrastructures := alike.infrastructures workers name (shootName_eq_ok_iff.mp isName)
    apply (InquiriesAlike.ask _ infrastructures).bind
    intro infrastructure infrastructure' infrastructuresAlike
    rw [providerNetworks_congr infrastructuresAlike]
    rfl
  · have workerless' : ¬ shoot'.HasWorkers := mt alike.sameWorkers.mpr workers
    rw [shootNetworks, shootNetworks, if_pos (Shoot.isWorkerless_iff.mpr workers),
      if_pos (Shoot.isWorkerless_iff.mpr workerless')]

theorem exemptNetworks_congr
    (clusters : ResultsAlike (mutator.ClustersAlike lookup namespaceName)
      ((mutator.lookup.cluster namespaceName).within mutator.timeout)
      ((lookup.cluster namespaceName).within mutator.timeout)) :
    mutator.exemptNetworks namespaceName =
      { mutator with lookup := lookup }.exemptNetworks namespaceName := by
  rw [exemptNetworks, exemptNetworks]
  apply (InquiriesAlike.ask _ clusters).bind
  intro cluster cluster' alike
  rw [alike.sameSeed, shootNetworks_congr alike.shoots]

/-- The object and the cluster are read only where an extension asks for a rule. -/
theorem guardShoot_congr {spec spec' : EnvoyFilterSpec}
    (extensions : (mutator.lookup.extension namespaceName "acl").Agree mutator.timeout
      (lookup.extension namespaceName "acl"))
    (asked : ∀ extension rule,
      (mutator.lookup.extension namespaceName "acl").Yields mutator.timeout
        (some extension) → extension.AsksFor rule →
      spec = spec' ∧ ResultsAlike (mutator.ClustersAlike lookup namespaceName)
        ((mutator.lookup.cluster namespaceName).within mutator.timeout)
        ((lookup.cluster namespaceName).within mutator.timeout)) :
    mutator.guardShoot namespaceName spec =
      { mutator with lookup := lookup }.guardShoot namespaceName spec' := by
  have sameExtension : { mutator with lookup := lookup }.findExtension namespaceName =
      mutator.findExtension namespaceName := by
    rw [findExtension, findExtension, Inquiry.ask, Inquiry.ask, Extension.aclName, extensions]
  rw [guardShoot, guardShoot, sameExtension]
  apply InquiriesAlike.bind_same
  intro found isFound
  cases found with
  | none => rfl
  | some extension =>
      apply InquiriesAlike.bind_same
      intro rule? isRule
      cases rule? with
      | none => rfl
      | some rule =>
          have yields := result_ask_eq_ok_iff.mp isFound
          have asks := (extension.rule?_eq_some_iff rule).mp isRule
          have alike := asked extension rule yields asks
          simp only [alike.1, exemptNetworks_congr alike.2]

end Mutator

/-! ## Requests that are answered alike -/

/-- Two requests are for the same operation on the same object.  Everything else about
them is free. -/
structure Request.SameSubmission (left right : Request) : Prop where
  operation : left.operation = right.operation
  object : left.object = right.object

theorem Request.presents_of_readSpec {request : Request} {object : SubmittedObject}
    {name : String} {parts : SubmittedObject × EnvoyFilterSpec}
    (remains : request.operation ≠ .delete) (holds : request.object = some object)
    (isCalled : object.metadata.IsCalled name)
    (read : request.readSpec EnvoyFilterSpec.shape.decoder = .ok parts) :
    request.Presents name parts.2 := by
  have ⟨holds', json, hasSpec, decoded⟩ := Request.readSpec_eq_ok_iff.mp read
  cases holds.symm.trans holds'
  exact ⟨remains, parts.1, holds, isCalled, json, hasSpec, decoded⟩

namespace Mutator

variable {mutator : Mutator} {request request' : Request} {name : String}
  {spec : EnvoyFilterSpec}

theorem mutate_sameSubmission (same : request.SameSubmission request') :
    mutator.mutate request = mutator.mutate request' := by
  rw [mutate, mutate, Request.readSpec, Request.readSpec, same.operation, same.object]

theorem mutate_of_delete (deletion : request.operation = .delete) :
    mutator.mutate request = pure none :=
  if_pos deletion

theorem mutate_of_unreadable {rejection : Rejection} (remains : request.operation ≠ .delete)
    (unreadable : request.readSpec EnvoyFilterSpec.shape.decoder = .error rejection) :
    mutator.mutate request = .ofResult (.error rejection) := by
  rw [mutate, if_neg remains, unreadable]
  rfl

end Mutator

/-- Two requests, each with the objects that can be looked up, differ only in what has
no bearing on the answer. -/
inductive Indistinguishable (registry : Registry) (timeout : Duration)
    (lookup lookup' : Lookup) (request request' : Request) : Prop where
  /-- Both are deletions, of whatever objects. -/
  | deletion : request.operation = .delete → request'.operation = .delete →
      Indistinguishable registry timeout lookup lookup' request request'
  /-- The submitted object has no spec that can be read, whatever can be looked up. -/
  | unreadable {rejection : Rejection} : request.SameSubmission request' →
      request.readSpec EnvoyFilterSpec.shape.decoder = .error rejection →
      Indistinguishable registry timeout lookup lookup' request request'
  /-- Both objects belong to no shoot, whatever can be looked up. -/
  | foreign {name name' : String} {spec spec' : EnvoyFilterSpec} :
      request.Presents name spec → request'.Presents name' spec' →
      ¬ "shoot--".toList <+: name.toList → ¬ "shoot--".toList <+: name'.toList →
      Indistinguishable registry timeout lookup lookup' request request'
  /-- The lookups agree on the extension and the cluster of the object's name, and on
  the infrastructure that this cluster leads to. -/
  | agreeing {object : SubmittedObject} {name : String} : request.SameSubmission request' →
      request.object = some object → object.metadata.IsCalled name →
      (lookup.extension name "acl").Agree timeout (lookup'.extension name "acl") →
      (lookup.cluster name).Agree timeout (lookup'.cluster name) →
      (∀ cluster shootName, (lookup.cluster name).Yields timeout cluster →
        cluster.spec.shoot.metadata.name = some shootName →
        (lookup.infrastructure name shootName).Agree timeout
          (lookup'.infrastructure name shootName)) →
      Indistinguishable registry timeout lookup lookup' request request'
  /-- The lookups agree on the extension, and it asks for no valid rule.  Whatever else
  can be looked up, and whatever the two specs say. -/
  | unasked {name : String} {spec spec' : EnvoyFilterSpec} :
      request.Presents name spec → request'.Presents name spec' →
      (lookup.extension name "acl").Agree timeout (lookup'.extension name "acl") →
      (∀ extension rule, (lookup.extension name "acl").Yields timeout
        (some extension) → ¬ extension.AsksFor rule) →
      Indistinguishable registry timeout lookup lookup' request request'
  /-- The lookups agree on the extension and on the networks of the seed, and the shoot
  has no workers.  Whatever the shoot is called, whatever its networks are, and whatever
  infrastructures there are. -/
  | workerless {name : String} {spec : EnvoyFilterSpec} {cluster cluster' : Cluster} :
      request.SameSubmission request' → request.Presents name spec →
      (lookup.extension name "acl").Agree timeout (lookup'.extension name "acl") →
      (lookup.cluster name).Yields timeout cluster →
      (lookup'.cluster name).Yields timeout cluster' →
      ¬ cluster.spec.shoot.HasWorkers → ¬ cluster'.spec.shoot.HasWorkers →
      cluster.spec.seed.spec.networks = cluster'.spec.seed.spec.networks →
      Indistinguishable registry timeout lookup lookup' request request'
  /-- The lookups agree on the extension and the cluster, and on the type of the shoot's
  infrastructure, which nobody has registered.  Whatever the infrastructure reports. -/
  | unregistered {name shootName : String} {spec : EnvoyFilterSpec} {cluster : Cluster}
      {infrastructure infrastructure' : Infrastructure} :
      request.SameSubmission request' → request.Presents name spec →
      (lookup.extension name "acl").Agree timeout (lookup'.extension name "acl") →
      (lookup.cluster name).Yields timeout cluster →
      (lookup'.cluster name).Yields timeout cluster →
      cluster.spec.shoot.metadata.name = some shootName →
      (lookup.infrastructure name shootName).Yields timeout infrastructure →
      (lookup'.infrastructure name shootName).Yields timeout infrastructure' →
      infrastructure.spec.providerType = infrastructure'.spec.providerType →
      registry.isRegistered infrastructure.spec.providerType = false →
      Indistinguishable registry timeout lookup lookup' request request'

namespace Mutator

variable {mutator : Mutator} {lookup : Lookup} {request request' : Request} {name : String}
  {spec : EnvoyFilterSpec}

/-- Where the object and what is looked up for a shoot are alike, the answer is the
same. -/
theorem mutate_alike (same : request.SameSubmission request')
    (presents : request.Presents name spec)
    (extensions : (mutator.lookup.extension name "acl").Agree mutator.timeout
      (lookup.extension name "acl"))
    (clusters : ResultsAlike (mutator.ClustersAlike lookup name)
      ((mutator.lookup.cluster name).within mutator.timeout)
      ((lookup.cluster name).within mutator.timeout)) :
    mutator.mutate request = { mutator with lookup := lookup }.mutate request' := by
  rw [← mutate_sameSubmission same, mutate_of_presents presents, mutate_of_presents presents]
  rw [guardShoot_congr extensions fun _ _ _ _ => ⟨rfl, clusters⟩]

/-- A request without a spec that can be read is answered without a look at anything
else. -/
theorem mutate_unreadable {rejection : Rejection} (same : request.SameSubmission request')
    (unreadable : request.readSpec EnvoyFilterSpec.shape.decoder = .error rejection) :
    mutator.mutate request = { mutator with lookup := lookup }.mutate request' := by
  rw [← mutate_sameSubmission same]
  by_cases deletion : request.operation = .delete
  · rw [mutate_of_delete deletion, mutate_of_delete deletion]
  · rw [mutate_of_unreadable deletion unreadable, mutate_of_unreadable deletion unreadable]

/-- A request is answered from its operation, the name and the spec of its object, the
extension and the cluster of that name, and the infrastructure that the cluster leads
to, each only if it is reached.  Whatever else is asked for, can be looked up or is set
has no bearing on the answer, nor on what is looked up for it. -/
theorem mutate_indistinguishable {registry : Registry} {settings : Settings}
    {lookup lookup' : Lookup} {request request' : Request}
    (indistinguishable : Indistinguishable registry settings.lookupTimeout lookup lookup'
      request request') (limit : Nat) :
    (ofSettings lookup registry settings).mutate request =
      (ofSettings lookup' registry { settings with cidrLimit := limit }).mutate request' := by
  -- The limit is no part of a mutator, so only the lookups differ.
  change _ = { ofSettings lookup registry settings with lookup := lookup' }.mutate request'
  cases indistinguishable with
  | deletion deletion deletion' =>
      rw [mutate_of_delete deletion, mutate_of_delete deletion']
  | unreadable same unreadable => exact mutate_unreadable same unreadable
  | foreign presents presents' foreign foreign' =>
      rw [mutate_of_presents presents, mutate_of_presents presents',
        if_neg (mt (belongsToShoot_iff _).mp foreign),
        if_neg (mt (belongsToShoot_iff _).mp foreign')]
  | agreeing same holds isCalled extensions clusters infrastructures =>
      by_cases deletion : request.operation = .delete
      · rw [← mutate_sameSubmission same, mutate_of_delete deletion, mutate_of_delete deletion]
      · cases read : request.readSpec EnvoyFilterSpec.shape.decoder with
        | error rejection => exact mutate_unreadable same read
        | ok parts =>
            have presents := Request.presents_of_readSpec deletion holds isCalled read
            apply mutate_alike same presents extensions
            apply ResultsAlike.of_eq clusters
            intro cluster isCluster
            apply ClustersAlike.of_infrastructures
            intro shootName named
            have yields := Outcome.within_eq_ok_iff.mp isCluster
            apply ResultsAlike.of_eq (infrastructures cluster shootName yields named)
            intro infrastructure _
            exact .refl _ infrastructure
  | unasked presents presents' extensions unasked =>
      rw [mutate_of_presents presents, mutate_of_presents presents']
      rw [guardShoot_congr extensions fun extension rule yields asks =>
        absurd asks (unasked extension rule yields)]
  | workerless same presents extensions yields yields' workerless workerless' sameSeed =>
      apply mutate_alike same presents extensions
      apply Outcome.alike_of_yields yields yields'
      exact ⟨sameSeed, .of_workerless workerless workerless'⟩
  | unregistered same presents extensions yields yields' named found found' sameType
      unregistered =>
      apply mutate_alike same presents extensions
      apply Outcome.alike_of_yields yields yields'
      apply ClustersAlike.of_infrastructures
      intro other isOther
      cases named.symm.trans isOther
      apply Outcome.alike_of_yields found found'
      exact .of_unregistered sameType unregistered

end Mutator

namespace Demo

/-- Lookups that know the shoot's own objects and report other things about the
infrastructure. -/
def neighbours : Lookup where
  extension name _ :=
    if name = "shoot--local--demo" then .now (.ok (some extension)) else .never
  cluster name := if name = "shoot--local--demo" then .now (.ok cluster) else .never
  infrastructure _ _ := .now (.ok ⟨{}, ⟨"local"⟩, some ⟨some .null⟩⟩)

/-- Settings whose bound is that of the mutator. -/
def settings : Settings := ⟨[], defaultCidrLimit, ⟨0⟩⟩

/-- Another request for the same operation on the same object. -/
def repeated : Request :=
  { request with uid := "2", name := "other", namespaceName := some "garden", oldObject := none }

theorem indistinguishable :
    Indistinguishable .standard settings.lookupTimeout mutator.lookup neighbours request
      repeated :=
  .unregistered ⟨rfl, rfl⟩ inScope.toPresents rfl (yields_now cluster) (yields_now cluster)
    rfl (yields_now _) (yields_now _) rfl rfl

end Demo

/-- The shoot's object is admitted with the same patch, whatever is said about others. -/
theorem Mutator.mutate_indistinguishable_demo :
    Indistinguishable .standard Demo.settings.lookupTimeout Demo.mutator.lookup
        Demo.neighbours Demo.request Demo.repeated ∧
      (ofSettings Demo.mutator.lookup .standard Demo.settings).mutate Demo.request =
        (ofSettings Demo.neighbours .standard { Demo.settings with cidrLimit := 0 }).mutate
          Demo.repeated ∧
      ∃ patch, ((ofSettings Demo.mutator.lookup .standard Demo.settings).mutate
        Demo.request).result = .ok (some patch) :=
  ⟨Demo.indistinguishable, Mutator.mutate_indistinguishable Demo.indistinguishable 0, _, rfl⟩

end Admission

end GatewayAcl
