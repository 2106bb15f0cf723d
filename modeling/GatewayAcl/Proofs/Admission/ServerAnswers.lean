import GatewayAcl.Proofs.Admission.Enforcement
import GatewayAcl.Proofs.Json.Legibility
import GatewayAcl.Proofs.Lookup.Replies

/-!
# Answers that cannot be read

What a mutator that looks objects up against the API server makes of the server's
replies.  That a shoot has no extension is taken only from a reply that says so, and
every other reply that does not hold the object asked for ends in a rejection.
-/

namespace GatewayAcl

open Kube Net

namespace Outcome

variable {α : Type} {bound : Duration} {result : Except Failure α}

theorem within_now : (now result).within bound = result.mapError .failed := by
  have inTime : (⟨0⟩ : Duration) ≤ bound := Nat.zero_le bound.milliseconds
  rw [now, within, if_pos inTime]

theorem yields_now {value : α} (found : result = .ok value) : (now result).Yields bound value := by
  rw [← within_eq_ok_iff, within_now, found, except_mapError_ok]

theorem within_now_of_failed {failure : Failure} (failed : result = .error failure) :
    (now result).within bound = .error (.failed failure) := by
  rw [within_now, failed, except_mapError_error]

end Outcome

namespace Admission

/-- A request is rejected for a lookup that has failed, and not for what it submits. -/
def Mutator.RejectsFor (mutator : Mutator) (request : Request) (failure : Failure) : Prop :=
  ∃ rejection, (mutator.mutate request).result = .error rejection ∧ rejection.code = 500 ∧
    rejection.message = failure.message

/-- A cluster leads to the infrastructure of a name: its shoot has this name and workers,
and all of the networks of the seed and the shoot can be told. -/
structure LeadsTo (cluster : Cluster) (shootName : String) : Prop where
  seed : ∀ text ∈ cluster.spec.seed.spec.networks.texts, ∃ network, Spells text network
  workers : cluster.spec.shoot.HasWorkers
  shoot : ∀ text ∈ cluster.spec.shoot.networkTexts, ∃ network, Spells text network
  named : cluster.spec.shoot.metadata.name = some shootName

namespace Mutator

variable {mutator : Mutator} {name : String} {failure : Failure}

theorem result_ask_of_failed {α : Type} {bound : Duration} {query : Query} {outcome : Outcome α}
    (failed : outcome.within bound = .error (.failed failure)) :
    (Inquiry.ask bound query outcome).result = .error (.lookup (.failed failure)) := by
  rw [Inquiry.result_ask, failed, except_mapError_error]

theorem result_exemptNetworks_of_cluster
    (failed : (mutator.lookup.cluster name).within mutator.timeout = .error (.failed failure)) :
    (mutator.exemptNetworks name).result = .error (.lookup (.failed failure)) := by
  rw [exemptNetworks, Inquiry.result_bind, findCluster, result_ask_of_failed failed,
    except_bind_error]

theorem result_exemptNetworks_of_infrastructure {cluster : Cluster} {shootName : String}
    (yields : (mutator.lookup.cluster name).Yields mutator.timeout cluster)
    (leads : LeadsTo cluster shootName)
    (failed : (mutator.lookup.infrastructure name shootName).within mutator.timeout =
      .error (.failed failure)) :
    (mutator.exemptNetworks name).result = .error (.lookup (.failed failure)) := by
  have ⟨seed, readSeed⟩ := ClusterNetworks.exists_parse_iff.mpr leads.seed
  have ⟨own, known⟩ := exists_ownNetworks_iff.mpr leads.shoot
  have notWorkerless : ¬ cluster.spec.shoot.isWorkerless = true :=
    mt Shoot.isWorkerless_iff.mp (not_not_intro leads.workers)
  have found : (mutator.findCluster name).result = .ok cluster := result_ask_eq_ok_iff.mpr yields
  have shoot : (mutator.shootNetworks name cluster.spec.shoot).result =
      .error (.lookup (.failed failure)) := by
    rw [shootNetworks, if_neg notWorkerless, known, shootName_eq_ok_iff.mpr leads.named,
      Inquiry.ofResult_ok_bind, Inquiry.ofResult_ok_bind, Inquiry.result_bind,
      findInfrastructure, result_ask_of_failed failed, except_bind_error]
  simp only [exemptNetworks, Inquiry.result_bind, found, readSeed, Inquiry.result_ofResult,
    except_mapError_ok, except_bind_ok, shoot, except_bind_error]

variable {request : Request} {spec : EnvoyFilterSpec}

/-- The object of a shoot is rejected if the lookup of the shoot's extension has failed. -/
theorem rejectsFor_of_extension (presents : request.Presents name spec)
    (belongs : "shoot--".toList <+: name.toList)
    (failed : (mutator.lookup.extension name "acl").within mutator.timeout =
      .error (.failed failure)) :
    mutator.RejectsFor request failure := by
  refine ⟨.lookup (.failed failure), ?_, rfl, rfl⟩
  rw [mutate_of_presents presents, if_pos ((belongsToShoot_iff name).mpr belongs), guardShoot,
    Inquiry.result_bind, findExtension, Extension.aclName, result_ask_of_failed failed,
    except_bind_error]

/-- In scope of a rule, a lookup that keeps the exempt networks from being known leads to
a rejection. -/
theorem InScope.rejectsFor {rule : Rule} (inScope : mutator.InScope request name spec rule)
    (failed : (mutator.exemptNetworks name).result = .error (.lookup (.failed failure))) :
    mutator.RejectsFor request failure := by
  refine ⟨.lookup (.failed failure), ?_, rfl, rfl⟩
  rw [inScope.result_mutate, failed, except_bind_error]

end Mutator

/-- No reply that cannot be read counts as the absence of a rule.  What is asked for is the
path of an object, wherever that can be asked for.  There is no extension only if a reply
of the server says so, there is an object only if a reply holds it, and everything else is
a failure.  The object of a shoot is rejected for the first failure that is reached: that
of the extension, if this asks for a rule that of the cluster, and if this leads there
that of the infrastructure. -/
theorem server_answers_fail_closed (server : ApiServer) (registry : Registry)
    (settings : Settings) :
    (∀ query path, query.IsAt path → (∀ char ∈ path.toList, Http.isPathChar char = true) →
      path.utf8ByteSize ≤ 65534 → ∀ reply,
        server.Replies query reply ↔ server.reply ⟨path, none⟩ = reply) ∧
    (∀ namespaceName name, server.extension namespaceName name = .ok none ↔
      ∃ reply, server.Replies (.extension namespaceName name) reply ∧ reply.SaysNotFound) ∧
    (∀ namespaceName name extension,
      server.extension namespaceName name = .ok (some extension) ↔
        ∃ reply, server.Replies (.extension namespaceName name) reply ∧
          reply.Holds Extension.shape.decoder extension) ∧
    (∀ namespaceName name, (∃ failure, server.extension namespaceName name = .error failure) ↔
      ∀ reply, server.Replies (.extension namespaceName name) reply →
        ¬ reply.SaysNotFound ∧ ∀ extension, ¬ reply.Holds Extension.shape.decoder extension) ∧
    (∀ name, (∃ failure, server.cluster name = .error failure) ↔
      ∀ reply, server.Replies (.cluster name) reply →
        ∀ cluster, ¬ reply.Holds Cluster.shape.decoder cluster) ∧
    (∀ namespaceName name,
      (∃ failure, server.infrastructure namespaceName name = .error failure) ↔
        ∀ reply, server.Replies (.infrastructure namespaceName name) reply →
          ∀ infrastructure, ¬ reply.Holds Infrastructure.shape.decoder infrastructure) ∧
    ∀ (request : Request) (name : String) (spec : EnvoyFilterSpec),
      request.Presents name spec → "shoot--".toList <+: name.toList →
        let mutator := Mutator.ofSettings server.lookup registry settings
        (∀ failure, server.extension name "acl" = .error failure →
          mutator.RejectsFor request failure) ∧
        ∀ extension rule, server.extension name "acl" = .ok (some extension) →
          extension.AsksFor rule →
            (∀ failure, server.cluster name = .error failure →
              mutator.RejectsFor request failure) ∧
            ∀ cluster shootName, server.cluster name = .ok cluster →
              LeadsTo cluster shootName →
                ∀ failure, server.infrastructure name shootName = .error failure →
                  mutator.RejectsFor request failure := by
  refine ⟨fun _ _ => ApiServer.replies_iff, fun _ _ => ApiServer.extension_eq_none_iff,
    fun _ _ _ => ApiServer.extension_eq_some_iff, fun _ _ => ApiServer.extension_failed_iff,
    fun _ => ApiServer.cluster_failed_iff, fun _ _ => ApiServer.infrastructure_failed_iff, ?_⟩
  intro request name spec presents belongs
  constructor
  · intro failure failed
    exact Mutator.rejectsFor_of_extension presents belongs (Outcome.within_now_of_failed failed)
  · intro extension rule found asks
    have inScope : (Mutator.ofSettings server.lookup registry settings).InScope request name
        spec rule :=
      ⟨presents, belongs, extension, Outcome.yields_now found, asks⟩
    constructor
    · intro failure failed
      apply inScope.rejectsFor
      exact Mutator.result_exemptNetworks_of_cluster (Outcome.within_now_of_failed failed)
    · intro cluster shootName foundCluster leads failure failed
      apply inScope.rejectsFor
      exact Mutator.result_exemptNetworks_of_infrastructure (Outcome.yields_now foundCluster)
        leads (Outcome.within_now_of_failed failed)

namespace Demo

/-- The error of a server that has no such object. -/
def notFound : Json :=
  .object [("code", .ofNat 404), ("reason", .string "NotFound"), ("status", .string "Failure")]

theorem legible_notFound : notFound.Legible Json.depthLimit := by
  have sorted : ["code", "reason", "status"].Pairwise (· < ·) := by decide
  refine .object (Members.ascending_iff_names.mpr sorted) ?_
  simp only [List.forall_mem_cons, List.not_mem_nil, false_implies, implies_true, and_true]
  exact ⟨.ofNat (by decide), .string _, .string _⟩

/-- The page of a server that has no such path. -/
def page : String := "<html>404 page not found</html>"

theorem not_decodes_page (error : ServerError) :
    ServerError.shape.decoder.ofText page ≠ .ok error := by
  have refused : (ServerError.shape.decoder.ofBytes (Text.bytes page.toList)).toOption = none := by
    decide +kernel
  intro decoded
  rw [Decoder.ofText, Text.toList_toUTF8] at decoded
  rw [decoded] at refused
  cases refused

def extensionPath (namespaceName : String) : String :=
  "/apis/extensions.gardener.cloud/v1alpha1/namespaces/" ++ namespaceName ++ "/extensions/" ++ "acl"

/-- A server that knows one namespace, in which there is no extension, and has only a page
for everything else. -/
def server : ApiServer where
  reply target :=
    if target.path = extensionPath "shoot--local--bare" then .answered 404 notFound.print
    else .answered 404 page

end Demo

/-- A shoot whose extension the server reports as missing has no rule.  The object of one for
which there is only a page is rejected, although both replies have the same status. -/
theorem server_answers_fail_closed_demo :
    Demo.server.extension "shoot--local--bare" "acl" = .ok none ∧
      ∃ failure, Demo.server.extension "shoot--local--demo" "acl" = .error failure ∧
        (Mutator.ofSettings Demo.server.lookup .standard ⟨[], 50, ⟨0⟩⟩).RejectsFor Demo.request
          failure := by
  have ⟨asked, none_iff, _, failed_iff, _, _, rejects⟩ :=
    server_answers_fail_closed Demo.server .standard ⟨[], 50, ⟨0⟩⟩
  have replies {namespaceName : String} {reply : Reply}
      (plain : (Demo.extensionPath namespaceName).toList.all Http.isPathChar = true)
      (short : (Demo.extensionPath namespaceName).utf8ByteSize ≤ 65534) :
      Demo.server.Replies (.extension namespaceName "acl") reply ↔
        Demo.server.reply ⟨Demo.extensionPath namespaceName, none⟩ = reply :=
    asked _ _ (.extension (by decide)) (List.all_eq_true.mp plain) short reply
  have missing : ∃ reply, Demo.server.Replies (.extension "shoot--local--bare" "acl") reply ∧
      reply.SaysNotFound := by
    have decoded : ServerError.shape.decoder.ofText Demo.notFound.print =
        .ok ⟨"Failure", "", "NotFound", 404⟩ :=
      Json.decoder_ofText_print _ Demo.legible_notFound
    exact ⟨_, (replies (by decide +kernel) (by decide)).mpr rfl, 404, _, _, rfl, by decide,
      decoded, rfl⟩
  have unreadable : ∃ failure,
      Demo.server.extension "shoot--local--demo" "acl" = .error failure := by
    apply (failed_iff _ _).mpr
    intro reply replied
    cases (replies (by decide +kernel) (by decide)).mp replied
    constructor
    · rintro ⟨_, _, error, ⟨⟩, _, decoded, _⟩
      exact Demo.not_decodes_page error decoded
    · rintro extension ⟨_, _, ⟨⟩, noError, _⟩
      exact noError (by decide)
  have ⟨failure, failed⟩ := unreadable
  have rejected := (rejects Demo.request _ Demo.spec Demo.inScope.toPresents
    Demo.inScope.belongs).1 failure failed
  exact ⟨(none_iff _ _).mpr missing, failure, failed, rejected⟩

end Admission

end GatewayAcl
