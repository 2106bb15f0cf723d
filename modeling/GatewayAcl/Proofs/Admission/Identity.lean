import GatewayAcl.Proofs.Admission.Reports

/-!
# The identity of a response

Whoever asks for an admission tells the response from others by the identity of the
request, which the response repeats.  Every response about a gateway filter object or an
extension does so, whether it admits or denies.  A request about anything else is
refused like a body that is no request at all, and its identity is lost.
-/

namespace GatewayAcl.Admission

open Json (follow?)

variable {http : Http.Request} {type : ObjectType} {request : Request} {service : Service}

/-- The service decides about the kind of object that a request is about. -/
def Request.IsSupported (request : Request) : Prop :=
  request.IsAbout "networking.istio.io" "envoyfilter" ∨
    request.IsAbout "extensions.gardener.cloud" "extension"

/-- An HTTP request asks for an admission: it is made where the service is found, and its
body is read as a review with the request. -/
structure Asks (http : Http.Request) (type : ObjectType) (request : Request) : Prop where
  isPost : http.method = "POST"
  isRoot : http.target.path = "/"
  carries : ∃ bytes, http.body = some bytes ∧
    Review.decoder.ofBytes bytes = .ok ⟨type, some request⟩

/-- The identity in a written response. -/
theorem Response.follow?_uid (response : Response) :
    follow? ["response", "uid"] response.encode = some (.string response.uid) := by
  have ⟨type, uid, allowed, status, patch⟩ := response
  cases patch with
  | none => rfl
  | some bytes => rfl

namespace Service

/-- Who asks for an admission is answered about the request. -/
theorem handle_of_asks (service : Service) (asks : Asks http type request) :
    service.handle http =
      ⟨.ok (.reviewed (service.handleRequest type request).answer),
        (service.handleRequest type request).queries,
        (service.handleRequest type request).observation⟩ := by
  have ⟨bytes, isBody, read⟩ := asks.carries
  have routed : ¬ (http.method != "POST" || http.target.path != "/") = true := by
    simp [asks.isPost, asks.isRoot]
  rw [handle, if_neg routed, isBody]
  simp only [handleBody, read]

theorem uid_handleFilter (service : Service) (type : ObjectType) (request : Request) :
    (service.handleFilter type request).answer.uid = request.uid := by
  rw [handleFilter]
  cases (service.mutator.mutate request).result with
  | error rejection => rfl
  | ok patch? => cases patch? <;> rfl

theorem uid_handleExtension (service : Service) (type : ObjectType) (request : Request) :
    (service.handleExtension type request).answer.uid = request.uid := by
  rw [handleExtension]
  cases service.validator.validate request <;> rfl

theorem handleRequest_of_filter (service : Service) (type : ObjectType)
    (isFilter : request.IsAbout "networking.istio.io" "envoyfilter") :
    service.handleRequest type request = service.handleFilter type request := by
  rw [handleRequest, if_pos (isFilterRequest_iff.mpr isFilter)]

theorem handleRequest_of_extension (service : Service) (type : ObjectType)
    (isExtension : request.IsAbout "extensions.gardener.cloud" "extension") :
    service.handleRequest type request = service.handleExtension type request := by
  have notFilter := fun isFilter =>
    not_extension_of_filter (isFilterRequest_iff.mp isFilter) isExtension
  rw [handleRequest, if_neg notFilter, if_pos (isExtensionRequest_iff.mpr isExtension)]

theorem handleRequest_of_unsupported (service : Service) (type : ObjectType)
    (unsupported : ¬ request.IsSupported) :
    service.handleRequest type request =
      { answer := .unsupported ("unsupported resource type: " ++ request.kind.print) } := by
  have notFilter := fun isFilter => unsupported (.inl (isFilterRequest_iff.mp isFilter))
  have notExtension := fun isExtension =>
    unsupported (.inr (isExtensionRequest_iff.mp isExtension))
  rw [handleRequest, if_neg notFilter, if_neg notExtension]

theorem uid_handleRequest_of_supported (service : Service) (type : ObjectType)
    (supported : request.IsSupported) :
    (service.handleRequest type request).answer.uid = request.uid := by
  cases supported with
  | inl isFilter =>
      rw [service.handleRequest_of_filter type isFilter]
      exact service.uid_handleFilter type request
  | inr isExtension =>
      rw [service.handleRequest_of_extension type isExtension]
      exact service.uid_handleExtension type request

/-- The identity that is written into the answer to a request is that of its response. -/
theorem exists_identity (service : Service) (asks : Asks http type request) :
    ∃ answer body, (service.handle http).answer = .ok answer ∧ answer.body? = some body ∧
      follow? ["response", "uid"] body =
        some (.string (service.handleRequest type request).answer.uid) := by
  rw [handle_of_asks service asks]
  exact ⟨_, _, rfl, rfl, Response.follow?_uid _⟩

/-- Whoever asks for an admission is answered with a review.  The response in it has the
identity of the request if the service decides about its kind of object, and an empty
identity otherwise. -/
theorem handle_identity (service : Service) (asks : Asks http type request) :
    ∃ answer body uid, (service.handle http).answer = .ok answer ∧ answer.body? = some body ∧
      follow? ["response", "uid"] body = some (.string uid) ∧
      (request.IsSupported → uid = request.uid) ∧ (¬ request.IsSupported → uid = "") := by
  have ⟨answer, body, answered, isBody, identity⟩ := service.exists_identity asks
  refine ⟨answer, body, _, answered, isBody, identity, ?_, ?_⟩
  · intro supported
    exact service.uid_handleRequest_of_supported type supported
  · intro unsupported
    rw [service.handleRequest_of_unsupported type unsupported]
    rfl

end Service

namespace Demo

/-- A service whose lookups never end. -/
def idle : Service where
  mutator := {
    lookup := {
      extension := fun _ _ => .never
      cluster := fun _ => .never
      infrastructure := fun _ _ => .never }
    registry := .standard
    alwaysAllowed := []
    timeout := ⟨0⟩ }
  validator := ⟨50⟩

/-- A review with a request to delete an object of a kind in a group. -/
def review (group kind : String) : Json :=
  .record [
    ("apiVersion", .string "admission.k8s.io/v1"),
    ("kind", .string "AdmissionReview"),
    ("request", .record [
      ("uid", .string "705ab4f5"),
      ("kind", .record [
        ("group", .string group), ("version", .string "v1"), ("kind", .string kind)]),
      ("resource", .record [
        ("group", .string group), ("version", .string "v1"), ("resource", .string "objects")]),
      ("operation", .string "DELETE"),
      ("userInfo", .record [])])]

/-- The HTTP request that carries such a review. -/
def question (group kind : String) : Http.Request :=
  ⟨"POST", ⟨"/", none⟩, some (review group kind).print.toUTF8.toList⟩

/-- The HTTP request that asks whether an extension may be deleted. -/
def deletion : Http.Request := question "extensions.gardener.cloud" "Extension"

/-- What is read of the request that a question carries, as far as it matters here. -/
def asked? (http : Http.Request) : Option (String × GroupVersionKind × Operation) :=
  match http.body.map Review.decoder.ofBytes with
  | some (.ok ⟨_, some request⟩) => some (request.uid, request.kind, request.operation)
  | _ => none

theorem legible_review (group kind : String) : (review group kind).Legible Json.depthLimit := by
  refine .record ?_
  simp only [List.forall_mem_cons, List.not_mem_nil, false_implies, implies_true, and_true]
  refine ⟨.string _, .string _, .record ?_⟩
  simp only [List.forall_mem_cons, List.not_mem_nil, false_implies, implies_true, and_true]
  refine ⟨.string _, .record ?_, .record ?_, .string _, .record (by simp)⟩ <;>
    simp [Json.Legible.string]

/-- What a question carries is what its review says. -/
theorem asked?_question (group kind : String) :
    asked? (question group kind) =
      match Review.decoder.ofJson (review group kind) with
      | .ok ⟨_, some request⟩ => some (request.uid, request.kind, request.operation)
      | _ => none := by
  have read : Review.decoder.ofBytes (review group kind).print.toUTF8.toList =
      (Review.decoder.ofJson (review group kind)).mapError .inText :=
    Json.decoder_ofText_print _ (legible_review group kind)
  rw [asked?, question, Option.map_some, read]
  cases Review.decoder.ofJson (review group kind) with
  | error error => rfl
  | ok review =>
      have ⟨type, request?⟩ := review
      cases request? <;> rfl

theorem exists_asks {group name uid : String} {kind : GroupVersionKind} {operation : Operation}
    (read : asked? (question group name) = some (uid, kind, operation)) :
    ∃ type request, Asks (question group name) type request ∧ request.uid = uid ∧
      request.kind = kind ∧ request.operation = operation := by
  unfold asked? at read
  split at read
  · next type request decoded =>
      cases read
      exact ⟨type, request, ⟨rfl, rfl, _, rfl, Option.some.inj decoded⟩, rfl, rfl, rfl⟩
  · cases read

theorem deletion_asks :
    ∃ type request, Asks deletion type request ∧ request.uid = "705ab4f5" ∧
      request.IsAbout "extensions.gardener.cloud" "extension" ∧
      request.kind.kind = "Extension" ∧ request.operation = .delete := by
  have read : asked? deletion =
      some ("705ab4f5", ⟨"extensions.gardener.cloud", "v1", "Extension"⟩, .delete) :=
    asked?_question "extensions.gardener.cloud" "Extension"
  have ⟨type, request, asks, isUid, isKind, isDelete⟩ := exists_asks read
  refine ⟨type, request, asks, isUid, ?_, isKind ▸ rfl, isDelete⟩
  rw [← Service.isExtensionRequest_iff, Service.isExtensionRequest, isKind]
  decide +kernel

end Demo

namespace Service

/-- The response to a request to delete an extension has the identity of the request. -/
theorem handle_identity_demo :
    ∃ type request answer body,
      Asks Demo.deletion type request ∧
      (Demo.idle.handle Demo.deletion).answer = .ok answer ∧
      answer.body? = some body ∧
      follow? ["response", "uid"] body = some (.string "705ab4f5") := by
  have ⟨type, request, asks, isUid, isExtension, _⟩ := Demo.deletion_asks
  have ⟨answer, body, uid, answered, isBody, identity, repeated, _⟩ :=
    Demo.idle.handle_identity asks
  have same : uid = "705ab4f5" := (repeated (.inr isExtension)).trans isUid
  exact ⟨type, request, answer, body, asks, answered, isBody, same ▸ identity⟩

/-- The response to a request about a config map does not have the identity of the
request. -/
theorem handle_identity_lost :
    ∃ type request answer body,
      Asks (Demo.question "" "ConfigMap") type request ∧ request.uid = "705ab4f5" ∧
      (Demo.idle.handle (Demo.question "" "ConfigMap")).answer = .ok answer ∧
      answer.body? = some body ∧
      follow? ["response", "uid"] body = some (.string "") := by
  have read : Demo.asked? (Demo.question "" "ConfigMap") =
      some ("705ab4f5", ⟨"", "v1", "ConfigMap"⟩, .delete) :=
    Demo.asked?_question "" "ConfigMap"
  have ⟨type, request, asks, isUid, isKind, _⟩ := Demo.exists_asks read
  have ⟨answer, body, answered, isBody, identity⟩ := Demo.idle.exists_identity asks
  have unsupported : ¬ request.IsSupported := by
    rw [Request.IsSupported, ← isFilterRequest_iff, ← isExtensionRequest_iff,
      isFilterRequest, isExtensionRequest, isKind]
    decide +kernel
  rw [Demo.idle.handleRequest_of_unsupported type unsupported] at identity
  exact ⟨type, request, answer, body, asks, isUid, answered, isBody, identity⟩

end Service

end GatewayAcl.Admission
